import Trackpal.Foundation.Freshness
import Trackpal.Foundation.Runs

/-!
# The catalog cache of the browser

The loaders of the catalog store write what they are answered, whatever has been invalidated or
cleared since they asked. The module compares what they write with what was asked when.
-/

namespace Trackpal.Browser.Catalog

open Trackpal.Foundation

/-! ## The store -/

/-- The text of a UUID, so never empty. -/
abbrev ServiceId := Nat

abbrev RequestId := Nat

inductive Resource where
  | services
  | clients
  | plans (serviceId : ServiceId)
deriving DecidableEq, Repr

structure CatalogState (Row : Type) where
  services : List Row
  plans : ServiceId → Option (List Row)
  clients : List Row
  servicesLoaded : Bool
  clientsLoaded : Bool
  servicesInFlight : Option RequestId
  clientsInFlight : Option RequestId
  loadError : Option String

variable {Row : Type}

namespace CatalogState

def initial : CatalogState Row :=
  { services := [], plans := fun _ => none, clients := [], servicesLoaded := false,
    clientsLoaded := false, servicesInFlight := none, clientsInFlight := none, loadError := none }

/-- What a loader returns without a request. -/
def cached (c : CatalogState Row) : Resource → Option (List Row)
  | .services => if c.servicesLoaded ∧ 0 < c.services.length then some c.services else none
  | .clients => if c.clientsLoaded ∧ 0 < c.clients.length then some c.clients else none
  | .plans serviceId => c.plans serviceId

/-- The promise that a loader returns in place of a new one. -/
def inFlight (c : CatalogState Row) : Resource → Option RequestId
  | .services => c.servicesInFlight
  | .clients => c.clientsInFlight
  | .plans _ => none

/-- A loader has started a request. -/
def await (c : CatalogState Row) (id : RequestId) : Resource → CatalogState Row
  | .services => { c with servicesInFlight := some id }
  | .clients => { c with clientsInFlight := some id }
  | .plans _ => c

/-- The `try` branch of a loader after its await. -/
def done (c : CatalogState Row) (data : List Row) : Resource → CatalogState Row
  | .services =>
    { c with services := data, servicesLoaded := true, loadError := none, servicesInFlight := none }
  | .clients => { c with clients := data, clientsLoaded := true, clientsInFlight := none }
  | .plans serviceId => { c with plans := Function.update c.plans serviceId (some data) }

def message (detail : Option String) (r : Resource) : String :=
  (detail.filter (· ≠ "")).getD <|
    match r with
    | .services => "Failed to load services"
    | .clients => "Failed to load clients"
    | .plans _ => "Failed to load plans"

/-- The `catch` branch of a loader. -/
def failed (c : CatalogState Row) (detail : Option String) (r : Resource) : CatalogState Row :=
  let c := { c with loadError := some (message detail r) }
  match r with
  | .services => { c with servicesInFlight := none }
  | .clients => { c with clientsInFlight := none }
  | .plans _ => c

def invalidateServices (c : CatalogState Row) : CatalogState Row :=
  { c with services := [], servicesLoaded := false, plans := fun _ => none }

def invalidatePlans (c : CatalogState Row) : Option ServiceId → CatalogState Row
  | some serviceId => { c with plans := Function.update c.plans serviceId none }
  | none => { c with plans := fun _ => none }

def invalidateClients (c : CatalogState Row) : CatalogState Row :=
  { c with clients := [], clientsLoaded := false }

def clearAll (_ : CatalogState Row) : CatalogState Row := initial

end CatalogState

/-! ## Its calls -/

/-- A request that awaits its response. `wantedAt` is the last change of the resource before a
load that returns it. -/
structure Flight where
  id : RequestId
  resource : Resource
  wantedAt : Nat
deriving DecidableEq, Repr

/-- A load has returned data: its resource had changed last at `wantedAt`, and the data was
requested at `asOf`. -/
structure Return where
  wantedAt : Nat
  asOf : Nat
deriving DecidableEq, Repr

/-- The store and its requests. The ledger and the returns belong to no variable of the source. -/
structure State (Row : Type) where
  catalog : CatalogState Row
  flights : List Flight
  ledger : Ledger Resource
  returned : List Return

inductive Action (Row : Type) where
  | load (r : Resource)
  | respond (i : Nat) (answer : Except (Option String) (List Row))
  | invalidateServices
  | invalidatePlans (serviceId : Option ServiceId)
  | invalidateClients
  | clearAll

namespace State

def initial : State Row :=
  { catalog := .initial, flights := [], ledger := .initial, returned := [] }

/-- `loadServices`, `loadClients` and `loadPlans`, up to their await. -/
def load (s : State Row) (r : Resource) : State Row :=
  let wantedAt := s.ledger.changedAt r
  if (s.catalog.cached r).isSome then
    { s with returned := (s.ledger.held r).toList.map (⟨wantedAt, ·.asOf⟩) ++ s.returned }
  else
    match s.catalog.inFlight r with
    | some id =>
      { s with flights := s.flights.map fun f => if f.id = id then { f with wantedAt } else f }
    | none =>
      { s with
        catalog := s.catalog.await s.ledger.now r
        flights := s.flights ++ [⟨s.ledger.now, r, wantedAt⟩]
        ledger := s.ledger.tick }

/-- What a loader does when its request is answered. -/
def land (s : State Row) (flight : Flight) : Except (Option String) (List Row) → State Row
  | .ok data =>
    { s with
      catalog := s.catalog.done data flight.resource
      ledger := s.ledger.store flight.resource ⟨flight.id, flight.id⟩
      returned := ⟨flight.wantedAt, flight.id⟩ :: s.returned }
  | .error detail => { s with catalog := s.catalog.failed detail flight.resource }

end State

/-- `invalidateServices` drops the plans too. -/
def ofServices : Resource → Bool
  | .services | .plans _ => true
  | .clients => false

def ofPlans (serviceId : Option ServiceId) : Resource → Bool
  | .plans serviceId' => serviceId.all (· = serviceId')
  | _ => false

def ofClients : Resource → Bool
  | .clients => true
  | _ => false

def step (s : State Row) : Action Row → Option (State Row)
  | .load r => some (s.load r)
  | .respond i answer =>
    s.flights[i]?.map fun flight => { s with flights := s.flights.eraseIdx i }.land flight answer
  | .invalidateServices =>
    some { s with catalog := s.catalog.invalidateServices, ledger := s.ledger.drop ofServices }
  | .invalidatePlans serviceId =>
    some { s with catalog := s.catalog.invalidatePlans serviceId,
                  ledger := s.ledger.drop (ofPlans serviceId) }
  | .invalidateClients =>
    some { s with catalog := s.catalog.invalidateClients, ledger := s.ledger.drop ofClients }
  | .clearAll => some { s with catalog := s.catalog.clearAll, ledger := s.ledger.clear }

/-- A request for the resource, of the session that goes on. -/
def State.current (s : State Row) (r : Resource) (flight : Flight) : Bool :=
  flight.resource = r && s.ledger.clearedAt ≤ flight.id

structure Good (s : State Row) : Prop where
  /-- What is cached is noted in the ledger. -/
  noted : ∀ r, s.ledger.held r = none → s.catalog.cached r = none
  /-- Nothing cached was requested before the last clearing, or the last change. -/
  fresh : s.ledger.Fresh
  /-- No load has returned data from before a change that it came after. -/
  returned : ∀ ret ∈ s.returned, ret.wantedAt ≤ ret.asOf
  /-- At most one request of the session is in flight for a resource. -/
  single : ∀ r, s.flights.countP (s.current r) ≤ 1

def LateFailureKept (s : State Row) (a : Action Row) (s' : State Row) : Prop :=
  ∀ i detail flight, a = .respond i (.error detail) → s.flights[i]? = some flight →
    flight.id < s.ledger.clearedAt → s'.catalog = s.catalog

/-- A request is answered that is from before the last clearing or, with data, from before the last
change of its resource; or plans are requested that are on their way. -/
def breaks (s : State Row) : Action Row → Bool
  | .load r =>
    (s.catalog.cached r).isNone && (s.catalog.inFlight r).isNone &&
      s.flights.any (s.current r)
  | .respond i (.ok _) =>
    s.flights[i]?.any fun f =>
      f.id < s.ledger.clearedAt || f.id < s.ledger.changedAt f.resource
  | .respond i (.error detail) =>
    s.flights[i]?.any fun f =>
      f.id < s.ledger.clearedAt &&
        (s.catalog.loadError ≠ some (CatalogState.message detail f.resource) ||
          (s.catalog.inFlight f.resource).isSome)
  | _ => false

def Resource.shared : Resource → Bool
  | .services | .clients => true
  | .plans _ => false

/-- What holds besides of every state. -/
structure Tracked (s : State Row) : Prop where
  cleared : s.ledger.clearedAt ≤ s.ledger.now
  changed : ∀ r, s.ledger.changedAt r ≤ s.ledger.now
  started : ∀ f ∈ s.flights, f.id < s.ledger.now
  pending : ∀ r id, s.catalog.inFlight r = some id → id < s.ledger.now
  promised : ∀ r, ∀ f ∈ s.flights, s.catalog.inFlight r = some f.id → f.resource = r
  joined : ∀ f ∈ s.flights, f.resource.shared = true → s.ledger.clearedAt ≤ f.id →
    s.catalog.inFlight f.resource = some f.id
  wanted : ∀ f ∈ s.flights, f.wantedAt ≤ s.ledger.changedAt f.resource

variable {s s' : State Row} {c : CatalogState Row} {a : Action Row} {r r' : Resource}
  {data : List Row} {detail : Option String} {id i : Nat} {flight : Flight}

namespace CatalogLemmas

theorem inFlight_await : (c.await id r).inFlight r' =
    if r' = r ∧ r.shared = true then some id else c.inFlight r' := by
  cases r <;> cases r' <;> simp [CatalogState.await, CatalogState.inFlight, Resource.shared]

theorem inFlight_done : (c.done data r).inFlight r' = if r' = r then none else c.inFlight r' := by
  cases r <;> cases r' <;> simp [CatalogState.done, CatalogState.inFlight]

theorem inFlight_failed :
    (c.failed detail r).inFlight r' = if r' = r then none else c.inFlight r' := by
  cases r <;> cases r' <;> simp [CatalogState.failed, CatalogState.inFlight]

theorem cached_await : (c.await id r).cached = c.cached := by
  cases r <;> rfl

theorem cached_failed : (c.failed detail r).cached = c.cached := by
  cases r <;> rfl

theorem cached_done (h : r' ≠ r) : (c.done data r).cached r' = c.cached r' := by
  cases r with
  | services =>
    cases r' with
    | services => exact absurd rfl h
    | clients | plans => rfl
  | clients =>
    cases r' with
    | clients => exact absurd rfl h
    | services | plans => rfl
  | plans serviceId =>
    cases r' with
    | services | clients => rfl
    | plans serviceId' => exact Function.update_of_ne (fun heq => h (congrArg _ heq)) _ _

theorem cached_invalidateServices : c.invalidateServices.cached r =
    if ofServices r then none else c.cached r := by
  cases r <;> rfl

theorem cached_invalidatePlans {serviceId : Option ServiceId} :
    (c.invalidatePlans serviceId).cached r = if ofPlans serviceId r then none else c.cached r := by
  cases r with
  | services | clients => cases serviceId <;> rfl
  | plans serviceId' =>
    cases serviceId with
    | none => rfl
    | some serviceId =>
      refine (Function.update_apply c.plans serviceId none serviceId').trans ?_
      exact if_congr (by simp [ofPlans, eq_comm]) rfl rfl

theorem cached_invalidateClients : c.invalidateClients.cached r =
    if ofClients r then none else c.cached r := by
  cases r <;> rfl

theorem cached_initial : (CatalogState.initial : CatalogState Row).cached r = none := by
  cases r <;> rfl

theorem inFlight_initial : (CatalogState.initial : CatalogState Row).inFlight r = none := by
  cases r <;> rfl

theorem failed_eq_self : c.failed detail r = c ↔
    c.loadError = some (CatalogState.message detail r) ∧ c.inFlight r = none := by
  obtain ⟨services, plans, clients, servicesLoaded, clientsLoaded, servicesInFlight,
    clientsInFlight, loadError⟩ := c
  cases r <;> simp [CatalogState.failed, CatalogState.inFlight, eq_comm, and_comm]

theorem load_cached (h : (s.catalog.cached r).isSome = true) : s.load r =
    { s with returned := (s.ledger.held r).toList.map (⟨s.ledger.changedAt r, ·.asOf⟩) ++
        s.returned } := by
  unfold State.load
  rw [if_pos h]

theorem load_joins (hcached : s.catalog.cached r = none) (h : s.catalog.inFlight r = some id) :
    s.load r = { s with flights := s.flights.map fun f =>
      if f.id = id then { f with wantedAt := s.ledger.changedAt r } else f } := by
  unfold State.load
  rw [hcached, h]
  rfl

theorem load_starts (hcached : s.catalog.cached r = none) (h : s.catalog.inFlight r = none) :
    s.load r =
      { s with
        catalog := s.catalog.await s.ledger.now r
        flights := s.flights ++ [⟨s.ledger.now, r, s.ledger.changedAt r⟩]
        ledger := s.ledger.tick } := by
  unfold State.load
  rw [hcached, h]
  rfl

theorem countP_join {p : Flight → Bool} {wantedAt : Nat}
    (hp : ∀ f : Flight, p { f with wantedAt } = p f) :
    (s.flights.map fun f => if f.id = id then { f with wantedAt } else f).countP p =
      s.flights.countP p := by
  rw [List.countP_map]
  congr 1
  funext f
  dsimp only [Function.comp_apply]
  split
  · exact hp f
  · rfl

theorem single_erase (h : ∀ r, s.flights.countP (s.current r) ≤ 1) :
    ∀ r, (s.flights.eraseIdx i).countP (s.current r) ≤ 1 := fun r =>
  Nat.le_trans countP_eraseIdx_le (h r)

theorem countP_eq_zero : s.flights.any (s.current r) = false ↔
    s.flights.countP (s.current r) = 0 := by
  rw [List.any_eq_false, List.countP_eq_zero]

theorem good_load (ht : Tracked s) (h : Good s) : Good (s.load r) ↔ breaks s (.load r) = false := by
  unfold breaks
  dsimp only
  cases hcached : s.catalog.cached r with
  | some rows =>
    have hsome : (s.catalog.cached r).isSome = true := hcached ▸ rfl
    rw [load_cached hsome]
    refine iff_of_true ⟨h.noted, h.fresh, ?_, h.single⟩ rfl
    intro ret hret
    obtain hret | hret := List.mem_append.mp hret
    · obtain ⟨stamp, hstamp, rfl⟩ := List.mem_map.mp hret
      exact (h.fresh r stamp (Option.mem_toList.mp hstamp)).2
    · exact h.returned ret hret
  | none =>
    cases hflight : s.catalog.inFlight r with
    | some id =>
      rw [load_joins hcached hflight]
      refine iff_of_true ⟨h.noted, h.fresh, h.returned, fun r' => ?_⟩ rfl
      have hcount := h.single r'
      rw [← @countP_join _ _ id _ (s.ledger.changedAt r) fun f => rfl] at hcount
      exact hcount
    | none =>
      rw [load_starts hcached hflight]
      rw [Option.isNone_none, Option.isNone_none, Bool.true_and, Bool.true_and, countP_eq_zero]
      have hnew : ∀ r', s.current r' ⟨s.ledger.now, r, s.ledger.changedAt r⟩ = decide (r = r') := by
        intro r'
        unfold State.current
        rw [decide_eq_true ht.cleared, Bool.and_true]
      constructor
      · intro hgood
        have hcount : (s.flights ++ [Flight.mk s.ledger.now r (s.ledger.changedAt r)]).countP
            (s.current r) ≤ 1 := hgood.single r
        rw [List.countP_append, List.countP_singleton, hnew r, decide_eq_true rfl, if_pos rfl]
          at hcount
        omega
      · intro hzero
        refine ⟨fun r' hheld => ?_, h.fresh, h.returned, fun r' => ?_⟩
        · rw [cached_await]
          exact h.noted r' hheld
        · have hcount : (s.flights ++ [Flight.mk s.ledger.now r (s.ledger.changedAt r)]).countP
              (s.current r') ≤ 1 := by
            rw [List.countP_append, List.countP_singleton, hnew r']
            by_cases hr : r = r'
            · rw [← hr, decide_eq_true rfl, if_pos rfl]
              omega
            · rw [decide_eq_false hr, if_neg Bool.false_ne_true]
              exact h.single r'
          exact hcount

theorem good_done (ht : Tracked s) (h : Good s) (hflight : s.flights[i]? = some flight) :
    Good ({ s with flights := s.flights.eraseIdx i }.land flight (.ok data)) ↔
      (decide (flight.id < s.ledger.clearedAt) ||
        decide (flight.id < s.ledger.changedAt flight.resource)) = false := by
  have hadmits : (decide (flight.id < s.ledger.clearedAt) ||
      decide (flight.id < s.ledger.changedAt flight.resource)) = false ↔
        s.ledger.Admits flight.resource ⟨flight.id, flight.id⟩ := by
    rw [Bool.or_eq_false_iff, decide_eq_false_iff_not, decide_eq_false_iff_not, Nat.not_lt,
      Nat.not_lt]
    rfl
  rw [hadmits, ← Ledger.fresh_store h.fresh]
  constructor
  · intro hgood
    exact hgood.fresh
  · intro hfresh
    have hasOf := ((Ledger.fresh_store h.fresh).mp hfresh).2
    refine ⟨fun r hheld => ?_, hfresh, fun ret hret => ?_, single_erase h.single⟩
    · have hheld' : (s.ledger.store flight.resource ⟨flight.id, flight.id⟩).held r = none := hheld
      rw [Ledger.held_store] at hheld'
      split at hheld'
      · cases hheld'
      · next hr =>
        have hcached : (s.catalog.done data flight.resource).cached r = s.catalog.cached r :=
          cached_done hr
        exact hcached.trans (h.noted r hheld')
    · obtain hret | hret := List.mem_cons.mp hret
      · rw [hret]
        exact Nat.le_trans (ht.wanted flight (List.mem_of_getElem? hflight)) hasOf
      · exact h.returned ret hret

theorem good_failed (h : Good s) :
    Good ({ s with flights := s.flights.eraseIdx i }.land flight (.error detail)) := by
  refine ⟨fun r hheld => ?_, h.fresh, h.returned, single_erase h.single⟩
  have hcached : (s.catalog.failed detail flight.resource).cached r = s.catalog.cached r :=
    congrFun cached_failed r
  exact hcached.trans (h.noted r hheld)

theorem good_drop {rs : Resource → Bool} (hcached : ∀ r, c.cached r =
    if rs r then none else s.catalog.cached r) (h : Good s) :
    Good { s with catalog := c, ledger := s.ledger.drop rs } := by
  refine ⟨fun r hheld => ?_, Ledger.fresh_drop h.fresh, h.returned, h.single⟩
  have hheld' : (if rs r then none else s.ledger.held r) = none := hheld
  rw [hcached r]
  split
  · rfl
  · next hr =>
    rw [if_neg hr] at hheld'
    exact h.noted r hheld'

theorem good_clear (ht : Tracked s) (h : Good s) :
    Good { s with catalog := s.catalog.clearAll, ledger := s.ledger.clear } := by
  refine ⟨fun r _ => cached_initial, Ledger.fresh_clear, h.returned, fun r => ?_⟩
  refine Nat.le_trans (Nat.le_of_eq (List.countP_eq_zero.mpr fun f hf => ?_)) (Nat.zero_le 1)
  have hid : ¬ s.ledger.now ≤ f.id := Nat.not_le.mpr (ht.started f hf)
  simp [State.current, Ledger.clear, hid]

theorem lateFailureKept_failed (hflight : s.flights[i]? = some flight) :
    LateFailureKept s (.respond i (.error detail))
        ({ s with flights := s.flights.eraseIdx i }.land flight (.error detail)) ↔
      breaks s (.respond i (.error detail)) = false := by
  have hbreaks : breaks s (.respond i (.error detail)) =
      (decide (flight.id < s.ledger.clearedAt) &&
        (s.catalog.loadError ≠ some (CatalogState.message detail flight.resource) ||
          (s.catalog.inFlight flight.resource).isSome)) := by
    unfold breaks
    dsimp only
    rw [hflight, Option.any_some]
  rw [hbreaks, Bool.and_eq_false_iff, decide_eq_false_iff_not, Bool.or_eq_false_iff,
    decide_eq_false_iff_not, not_not, Option.isSome_eq_false_iff, Option.isNone_iff_eq_none,
    ← failed_eq_self, ← imp_iff_not_or]
  constructor
  · intro hkept hlate
    exact hkept i detail flight rfl hflight hlate
  · intro hkept j detail' flight' haction hflight' hlate
    cases haction
    rw [hflight] at hflight'
    cases hflight'
    exact hkept hlate

theorem lateFailureKept_of_ne (h : ∀ i detail, a ≠ .respond i (.error detail)) :
    LateFailureKept s a s' :=
  fun i detail _ haction => absurd haction (h i detail)

theorem tracked_load (ht : Tracked s) : Tracked (s.load r) := by
  cases hcached : s.catalog.cached r with
  | some rows =>
    have hsome : (s.catalog.cached r).isSome = true := hcached ▸ rfl
    rw [load_cached hsome]
    exact ⟨ht.1, ht.2, ht.3, ht.4, ht.5, ht.6, ht.7⟩
  | none =>
    cases hflight : s.catalog.inFlight r with
    | some id =>
      rw [load_joins hcached hflight]
      -- the requests are the same, but for what is wanted from the one that is joined
      have hsame : ∀ f ∈ s.flights.map (fun f => if f.id = id then
          { f with wantedAt := s.ledger.changedAt r } else f), ∃ g ∈ s.flights,
            f.id = g.id ∧ f.resource = g.resource ∧
              (f.wantedAt = g.wantedAt ∨ g.id = id ∧ f.wantedAt = s.ledger.changedAt r) := by
        intro f hf
        obtain ⟨g, hg, rfl⟩ := List.mem_map.mp hf
        refine ⟨g, hg, ?_⟩
        split
        · next hid => exact ⟨rfl, rfl, Or.inr ⟨hid, rfl⟩⟩
        · exact ⟨rfl, rfl, Or.inl rfl⟩
      refine ⟨ht.cleared, ht.changed, fun f hf => ?_, ht.pending, fun r' f hf => ?_, fun f hf => ?_,
        fun f hf => ?_⟩
      · obtain ⟨g, hg, hid, -, -⟩ := hsame f hf
        rw [hid]
        exact ht.started g hg
      · obtain ⟨g, hg, hid, hresource, -⟩ := hsame f hf
        rw [hid, hresource]
        exact ht.promised r' g hg
      · obtain ⟨g, hg, hid, hresource, -⟩ := hsame f hf
        rw [hid, hresource]
        exact ht.joined g hg
      · obtain ⟨g, hg, -, hresource, hwanted⟩ := hsame f hf
        rw [hresource]
        obtain hwanted | ⟨hid, hwanted⟩ := hwanted
        · rw [hwanted]
          exact ht.wanted g hg
        · have hpromised := ht.promised r g hg (hid ▸ hflight)
          exact Nat.le_of_eq (hwanted.trans (congrArg s.ledger.changedAt hpromised.symm))
    | none =>
      rw [load_starts hcached hflight]
      have hstarted : ∀ f ∈ s.flights ++ [⟨s.ledger.now, r, s.ledger.changedAt r⟩],
          f ∈ s.flights ∨ f = ⟨s.ledger.now, r, s.ledger.changedAt r⟩ := fun f hf =>
        (List.mem_append.mp hf).imp_right List.mem_singleton.mp
      refine ⟨Nat.le_succ_of_le ht.cleared, fun r' => Nat.le_succ_of_le (ht.changed r'),
        fun f hf => ?_, fun r' id hid => ?_, fun r' f hf hid => ?_, fun f hf hshared hsince => ?_,
        fun f hf => ?_⟩
      · obtain hf | rfl := hstarted f hf
        · exact Nat.lt_succ_of_lt (ht.started f hf)
        · exact Nat.lt_succ_self _
      · rw [inFlight_await] at hid
        split at hid
        · rw [← Option.some.inj hid]
          exact Nat.lt_succ_self _
        · exact Nat.lt_succ_of_lt (ht.pending r' id hid)
      · rw [inFlight_await] at hid
        obtain hf | rfl := hstarted f hf
        · split at hid
          · exact absurd (Option.some.inj hid) (Nat.ne_of_gt (ht.started f hf))
          · exact ht.promised r' f hf hid
        · split at hid
          · next hr => exact hr.1.symm
          · exact absurd (ht.pending r' _ hid) (Nat.lt_irrefl _)
      · rw [inFlight_await]
        obtain hf | rfl := hstarted f hf
        · have hid := ht.joined f hf hshared hsince
          rw [if_neg fun hr => ?_]
          · exact hid
          · rw [hr.1, hflight] at hid
            cases hid
        · exact if_pos ⟨rfl, hshared⟩
      · obtain hf | rfl := hstarted f hf
        · exact ht.wanted f hf
        · exact Nat.le_refl _

theorem tracked_land {catalog : CatalogState Row} {ledger : Ledger Resource}
    {returned : List Return} (ht : Tracked s) (h : Good s) (hflight : s.flights[i]? = some flight)
    (hsince : s.ledger.clearedAt ≤ flight.id)
    (hcatalog : ∀ r, catalog.inFlight r =
      if r = flight.resource then none else s.catalog.inFlight r)
    (hledger : ledger.now = s.ledger.now ∧ ledger.clearedAt = s.ledger.clearedAt ∧
      ledger.changedAt = s.ledger.changedAt) :
    Tracked ⟨catalog, s.flights.eraseIdx i, ledger, returned⟩ := by
  obtain ⟨hnow, hcleared, hchanged⟩ := hledger
  have hcurrent : s.current flight.resource flight = true := by
    unfold State.current
    rw [decide_eq_true rfl, decide_eq_true hsince]
    rfl
  have hzero := countP_eraseIdx_eq_zero hflight hcurrent (h.single flight.resource)
  refine ⟨?_, fun r => ?_, fun f hf => ?_, fun r id hid => ?_, fun r f hf hid => ?_,
    fun f hf hshared hid => ?_, fun f hf => ?_⟩
  · dsimp only
    rw [hnow, hcleared]
    exact ht.cleared
  · dsimp only
    rw [hnow, hchanged]
    exact ht.changed r
  · dsimp only
    rw [hnow]
    exact ht.started f (List.mem_of_mem_eraseIdx hf)
  · dsimp only at hid ⊢
    rw [hnow]
    rw [hcatalog] at hid
    split at hid
    · cases hid
    · exact ht.pending r id hid
  · dsimp only at hid
    rw [hcatalog] at hid
    split at hid
    · cases hid
    · exact ht.promised r f (List.mem_of_mem_eraseIdx hf) hid
  · dsimp only at hid ⊢
    rw [hcleared] at hid
    rw [hcatalog]
    by_cases hr : f.resource = flight.resource
    · -- it would be a second request of the session
      have hother : s.current flight.resource f = true := by
        unfold State.current
        rw [decide_eq_true hr, decide_eq_true hid]
        rfl
      exact absurd hother (List.countP_eq_zero.mp hzero f hf)
    · rw [if_neg hr]
      exact ht.joined f (List.mem_of_mem_eraseIdx hf) hshared hid
  · dsimp only
    rw [hchanged]
    exact ht.wanted f (List.mem_of_mem_eraseIdx hf)

theorem tracked_drop {rs : Resource → Bool} (hinFlight : ∀ r, c.inFlight r = s.catalog.inFlight r)
    (ht : Tracked s) : Tracked { s with catalog := c, ledger := s.ledger.drop rs } := by
  have hchanged : ∀ r, s.ledger.changedAt r ≤ (s.ledger.drop rs).changedAt r ∧
      (s.ledger.drop rs).changedAt r ≤ s.ledger.now := by
    intro r
    unfold Ledger.drop
    dsimp only
    split
    · exact ⟨ht.changed r, Nat.le_refl _⟩
    · exact ⟨Nat.le_refl _, ht.changed r⟩
  refine ⟨ht.cleared, fun r => (hchanged r).2, ht.started, fun r id hid => ?_, fun r f hf hid => ?_,
    fun f hf hshared hid => ?_, fun f hf => Nat.le_trans (ht.wanted f hf) (hchanged _).1⟩
  · exact ht.pending r id (hinFlight r ▸ hid)
  · exact ht.promised r f hf (hinFlight r ▸ hid)
  · exact (hinFlight f.resource).trans (ht.joined f hf hshared hid)

theorem tracked_clear (ht : Tracked s) :
    Tracked { s with catalog := s.catalog.clearAll, ledger := s.ledger.clear } := by
  refine ⟨Nat.le_refl _, ht.changed, ht.started, fun r id hid => ?_, fun r f hf hid => ?_,
    fun f hf hshared hid => ?_, ht.wanted⟩
  · exact nomatch inFlight_initial.symm.trans hid
  · exact nomatch inFlight_initial.symm.trans hid
  · exact absurd hid (Nat.not_le.mpr (ht.started f hf))

theorem tracked_rest (ht : Tracked s) : Tracked { s with flights := s.flights.eraseIdx i } :=
  ⟨ht.1, ht.2, fun f hf => ht.3 f (List.mem_of_mem_eraseIdx hf), ht.4,
    fun r f hf => ht.5 r f (List.mem_of_mem_eraseIdx hf),
    fun f hf => ht.6 f (List.mem_of_mem_eraseIdx hf),
    fun f hf => ht.7 f (List.mem_of_mem_eraseIdx hf)⟩

end CatalogLemmas

open CatalogLemmas

theorem good_step (ht : Tracked s) (h : Good s) (hstep : step s a = some s') :
    Good s' ∧ LateFailureKept s a s' ↔ breaks s a = false := by
  cases a with
  | load r =>
    rw [← Option.some.inj hstep, ← good_load ht h]
    exact and_iff_left (lateFailureKept_of_ne fun i detail haction => nomatch haction)
  | respond i answer =>
    obtain ⟨flight, hflight, hland⟩ := Option.map_eq_some_iff.mp hstep
    rw [← hland]
    cases answer with
    | ok data =>
      refine (and_iff_left (lateFailureKept_of_ne fun j detail h => by cases h)).trans ?_
      unfold breaks
      dsimp only
      rw [hflight, Option.any_some]
      exact good_done ht h hflight
    | error detail =>
      rw [← lateFailureKept_failed hflight]
      exact and_iff_right (good_failed h)
  | invalidateServices =>
    rw [← Option.some.inj hstep]
    exact iff_of_true ⟨good_drop (fun r => cached_invalidateServices) h,
      lateFailureKept_of_ne fun i detail haction => nomatch haction⟩ rfl
  | invalidatePlans serviceId =>
    rw [← Option.some.inj hstep]
    exact iff_of_true ⟨good_drop (fun r => cached_invalidatePlans) h,
      lateFailureKept_of_ne fun i detail haction => nomatch haction⟩ rfl
  | invalidateClients =>
    rw [← Option.some.inj hstep]
    exact iff_of_true ⟨good_drop (fun r => cached_invalidateClients) h,
      lateFailureKept_of_ne fun i detail haction => nomatch haction⟩ rfl
  | clearAll =>
    rw [← Option.some.inj hstep]
    exact iff_of_true ⟨good_clear ht h,
      lateFailureKept_of_ne fun i detail haction => nomatch haction⟩ rfl

theorem tracked_step (ht : Tracked s) (h : Good s) (hok : breaks s a = false)
    (hstep : step s a = some s') : Tracked s' := by
  cases a with
  | load r =>
    rw [← Option.some.inj hstep]
    exact tracked_load ht
  | respond i answer =>
    obtain ⟨flight, hflight, hland⟩ := Option.map_eq_some_iff.mp hstep
    rw [← hland]
    cases answer with
    | ok data =>
      unfold breaks at hok
      dsimp only at hok
      rw [hflight, Option.any_some, Bool.or_eq_false_iff, decide_eq_false_iff_not,
        Nat.not_lt] at hok
      exact tracked_land ht h hflight hok.1 (fun r => inFlight_done) ⟨rfl, rfl, rfl⟩
    | error detail =>
      by_cases hlate : flight.id < s.ledger.clearedAt
      · have hkept := ((good_step ht h hstep).mpr hok).2 i detail flight rfl hflight hlate
        have hsame : s' = { s with flights := s.flights.eraseIdx i } := by
          rw [← hland] at hkept ⊢
          exact congrArg (fun c => State.mk c _ _ _) hkept
        rw [hland, hsame]
        exact tracked_rest ht
      · exact tracked_land ht h hflight (Nat.not_lt.mp hlate) (fun r => inFlight_failed)
          ⟨rfl, rfl, rfl⟩
  | invalidateServices =>
    rw [← Option.some.inj hstep]
    exact tracked_drop (fun r => by cases r <;> rfl) ht
  | invalidatePlans serviceId =>
    rw [← Option.some.inj hstep]
    exact tracked_drop (fun r => by cases serviceId <;> cases r <;> rfl) ht
  | invalidateClients =>
    rw [← Option.some.inj hstep]
    exact tracked_drop (fun r => by cases r <;> rfl) ht
  | clearAll =>
    rw [← Option.some.inj hstep]
    exact tracked_clear ht

theorem good_initial : Good (State.initial : State Row) :=
  ⟨fun _ _ => cached_initial, Ledger.fresh_initial, fun _ h => absurd h List.not_mem_nil,
    fun _ => Nat.zero_le 1⟩

theorem tracked_initial : Tracked (State.initial : State Row) :=
  ⟨Nat.le_refl 0, fun _ => Nat.le_refl 0, fun _ h => absurd h List.not_mem_nil,
    fun _ _ h => (nomatch inFlight_initial.symm.trans h), fun _ _ h => absurd h List.not_mem_nil,
    fun _ h => absurd h List.not_mem_nil, fun _ h => absurd h List.not_mem_nil⟩

theorem good_of_reaches
    (h : Reaches step (fun s a => breaks s a = false) (State.initial : State Row) s) :
    Tracked s ∧ Good s := by
  refine h.invariant (I := fun s => Tracked s ∧ Good s) ⟨tracked_initial, good_initial⟩ ?_
  intro s a s' ⟨ht, hgood⟩ hok hstep
  exact ⟨tracked_step ht hgood hok hstep, ((good_step ht hgood hstep).mpr hok).1⟩

/-- Until an action breaks it, the cache is fresh and asks once at a time; such an action ends
that. -/
theorem good_iff
    (h : Reaches step (fun s a => breaks s a = false) (State.initial : State Row) s)
    (hstep : step s a = some s') :
    Good s ∧ (Good s' ∧ LateFailureKept s a s' ↔ breaks s a = false) := by
  obtain ⟨ht, hgood⟩ := good_of_reaches h
  exact ⟨hgood, good_step ht hgood hstep⟩

/-- Services and clients are loaded, the services are invalidated with a load of plans in flight, the
store is cleared, and plans and services are loaded again. -/
def exBrowsed : List (Action Nat) :=
  [.load .services, .respond 0 (.ok [1, 2]), .load .services, .load (.plans 1), .load .clients,
    .respond 1 (.ok [5]), .invalidateServices, .load .services, .respond 1 (.error none), .clearAll,
    .load (.plans 2), .respond 1 (.ok [7]), .invalidatePlans (some 2), .load .services]

/-- The services may be answered; the plans from before the clearing may not. -/
theorem good_iff_browsed : ∃ s answered late : State Nat,
    s.returned.length = 4 ∧ s.flights.map (·.resource) = [.plans 1, .services] ∧
    step s (.respond 1 (.ok [3])) = some answered ∧ step s (.respond 0 (.ok [4])) = some late ∧
    Good s ∧ Good answered ∧ ¬(Good late ∧ LateFailureKept s (.respond 0 (.ok [4])) late) := by
  have hexec : (execWhere step (fun s a => !breaks s a) (State.initial : State Nat)
      exBrowsed).any (fun s : State Nat =>
        s.returned.length = 4 ∧ s.flights.map (·.resource) = [.plans 1, .services] ∧
          breaks s (.respond 1 (.ok [3])) = false ∧ breaks s (.respond 0 (.ok [4])) = true) =
            true := by
    decide +kernel
  obtain ⟨s, hreach, hs⟩ := exists_of_execWhere hexec
  obtain ⟨hreturned, hflights, hanswered, hlate⟩ := of_decide_eq_true hs
  obtain ⟨old, rest, hold, -, hrest⟩ := List.map_eq_cons_iff.mp hflights
  obtain ⟨current, others, hcurrent, -, -⟩ := List.map_eq_cons_iff.mp hrest
  have hreach : Reaches step (fun s a => breaks s a = false) State.initial s :=
    hreach.mono fun _ _ hok => by simpa using hok
  have hgoes : step s (.respond 1 (.ok [3])) = some _ :=
    congrArg (Option.map _) (show s.flights[1]? = some current by rw [hold, hcurrent]; rfl)
  have hcomes : step s (.respond 0 (.ok [4])) = some _ :=
    congrArg (Option.map _) (show s.flights[0]? = some old by rw [hold]; rfl)
  have hgood := good_iff hreach hgoes
  refine ⟨s, _, _, hreturned, hflights, hgoes, hcomes, hgood.1, (hgood.2.mpr hanswered).1,
    fun hkept => ?_⟩
  have hbroken := (good_iff hreach hcomes).2.mp hkept
  rw [hlate] at hbroken
  cases hbroken

/-- The load that follows an invalidation joins the request from before it, and returns its data. -/
theorem outdated_services : ∃ s : State Nat, Reaches step Always .initial s ∧
    s.returned = [⟨1, 0⟩] ∧ ¬Good s := by
  have htrace : (exec step (State.initial : State Nat) [.load .services, .invalidateServices,
      .load .services, .respond 0 (.ok [1, 2])]).any
        (fun s : State Nat => s.returned = [⟨1, 0⟩]) = true := by
    decide +kernel
  obtain ⟨s, hexec, hs⟩ := (Option.any_eq_true _ _).mp htrace
  have hreturned := of_decide_eq_true hs
  refine ⟨s, reaches_of_exec hexec, hreturned, fun hgood => ?_⟩
  have hfresh := hgood.returned ⟨1, 0⟩ (hreturned ▸ List.mem_singleton_self _)
  exact absurd hfresh (by decide)

end Trackpal.Browser.Catalog
