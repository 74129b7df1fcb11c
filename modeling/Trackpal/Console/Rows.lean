import Trackpal.Console.Navigation
import Trackpal.Foundation.Table

/-!
# The rows of the console

The tables that the console of a tenant reads and changes, the queries on them, and the operations
of the services, as far as the console sees them. What a service refuses for a reason of its own is
given.

Results:
1. `mem_of_active`, `mem_of_inactive`: the client of a registration holds the phone.
2. `kind_update`, `kind_deactivate`, `kind_activate`, `kind_create`: what the
   operations make of the registration.
-/

namespace Trackpal.Console

open Trackpal.Foundation

/-! ## Tables -/

/-- A row of `clients`. -/
structure Client where
  id : Nat
  tenantId : Nat
  fullName : String
  localUsername : String
  phone : Option String
  whatsappLid : Option String
  isActive : Bool
deriving DecidableEq, Repr, Inhabited

inductive SubscriptionStatus where
  | active
  | expired
  | cancelled
deriving DecidableEq, Repr

/-- A row of `subscriptions`. -/
structure Subscription where
  id : Nat
  tenantId : Nat
  clientId : Nat
  status : SubscriptionStatus
  expiresAt : Int
deriving DecidableEq, Repr

/-- A row of `blocked_clients`. -/
structure BlockedClient where
  id : Nat
  tenantId : Nat
  phone : Option String
  whatsappLid : Option String
deriving DecidableEq, Repr

/-- A row of `services`. -/
structure Service where
  id : Nat
  tenantId : Nat
deriving DecidableEq, Repr

/-- The tables. -/
structure Database where
  clients : Table Client.id
  subscriptions : Table Subscription.id
  blocked : Table BlockedClient.id
  services : Table Service.id

/-! ## Queries -/

/-- A query that expects at most one row found several. -/
inductive Multiple where
  | multipleResultsFound
deriving DecidableEq, Repr

def scalarOneOrNone {ρ : Type} : List ρ → Except Multiple (Option ρ)
  | [] => .ok none
  | [row] => .ok (some row)
  | _ => .error .multipleResultsFound

def phoneMatches (phone : String) (stored : Option String) : Bool :=
  let canonical := (normalizePhone (some phone)).getD phone
  stored = some canonical || stored = some ("+" ++ canonical)

namespace Database

variable (db : Database) (tenantId : Nat)

/-- `get_active_client_by_tenant_phone`. -/
def activeClient (phone : String) : Except Multiple (Option Client) :=
  scalarOneOrNone (db.clients.select fun c =>
    c.tenantId = tenantId && phoneMatches phone c.phone && c.isActive)

/-- `get_client_by_tenant_phone`. -/
def anyClient (phone : String) : Except Multiple (Option Client) :=
  scalarOneOrNone (db.clients.select fun c => c.tenantId = tenantId && phoneMatches phone c.phone)

/-- `clients_repository.get`. -/
def getClient (id : Nat) : Option Client := (db.clients.get id).filter (·.tenantId = tenantId)

/-- `clients_repository.phone_exists`. -/
def phoneExists (phone : String) : Bool :=
  db.clients.rows.any fun c => c.tenantId = tenantId && c.phone = some phone

def getSubscription (id : Nat) : Option Subscription :=
  (db.subscriptions.get id).filter (·.tenantId = tenantId)

def activeSubscriptions (clientId : Nat) : List Subscription :=
  (db.subscriptions.select fun s =>
    s.tenantId = tenantId && s.clientId = clientId && s.status = .active).mergeSort
      fun a b => a.expiresAt ≤ b.expiresAt

/-- `catalog_service.list_services`. -/
def listServices : List Service := db.services.select (·.tenantId = tenantId)

/-! ## Operations of the services -/

end Database

/-- What a service raises. -/
inductive Refusal where
  | userFacing
  | other
deriving DecidableEq, Repr

namespace Database

variable (db : Database) (tenantId : Nat) (refusal : Option Refusal)

/-- A change of a client by its id: `none` if there is no such client. -/
def changeClient (id : Nat) (f : Client → Client) (hf : ∀ c, (f c).id = c.id) :
    Except Refusal (Option Client × Database) :=
  match db.getClient tenantId id with
  | none => .ok (none, db)
  | some c =>
    match refusal with
    | some refusal => .error refusal
    | none => .ok (some (f c), { db with clients := db.clients.modify id f hf })

/-- The columns of `update_client` that the shortcut changes. -/
inductive EditField where
  | fullName
  | localUsername
deriving DecidableEq, Repr

def setField (payload : Option (EditField × String)) (c : Client) : Client :=
  match payload with
  | some (.fullName, value) => { c with fullName := value }
  | some (.localUsername, value) => { c with localUsername := value }
  | none => c

theorem id_setField {payload : Option (EditField × String)} {c : Client} :
    (setField payload c).id = c.id := by
  unfold setField
  split <;> rfl

/-- `update_client` for at most one field. -/
def updateClient (id : Nat) (payload : Option (EditField × String)) :
    Except Refusal (Option Client × Database) :=
  db.changeClient tenantId refusal id (setField payload) fun _ => id_setField

def deactivateClient (id : Nat) : Except Refusal (Option Client × Database) :=
  db.changeClient tenantId refusal id (fun c => { c with isActive := false }) fun _ => rfl

def activateClient (id : Nat) : Except Refusal (Option Client × Database) :=
  db.changeClient tenantId refusal id (fun c => { c with isActive := true }) fun _ => rfl

def deleteClient (id : Nat) : Except Refusal (Bool × Database) :=
  match db.getClient tenantId id with
  | none => .ok (false, db)
  | some c =>
    if c.isActive then .error .userFacing
    else
      match refusal with
      | some refusal => .error refusal
      | none => .ok (true, { db with
          clients := db.clients.remove (·.id = id)
          subscriptions := db.subscriptions.remove (·.clientId = id) })

structure ClientCreate where
  fullName : String
  localUsername : String
  phone : Option String
  password : String
deriving DecidableEq, Repr

/-- `create_client`, with the id of the new row: `none` if there is no such tenant. -/
def createClient (tenantExists : Bool) (newId : Nat) (payload : ClientCreate) :
    Except Refusal (Option Client × Database) :=
  if !tenantExists then .ok (none, db)
  else if payload.phone.any (db.phoneExists tenantId) then .error .userFacing
  else if (db.clients.get newId).isSome then .error .userFacing
  else
    match refusal with
    | some refusal => .error refusal
    | none =>
      let client : Client :=
        ⟨newId, tenantId, payload.fullName, payload.localUsername, payload.phone, none, true⟩
      .ok (some client, { db with clients := db.clients.insert client })

/-- `cancel_subscription`; a failure and a subscription that is not there give `none`. -/
def cancelSubscription (id : Nat) : Option Database :=
  match db.getSubscription tenantId id, refusal with
  | some _, none => some { db with
      subscriptions := db.subscriptions.modify id (fun s => { s with status := .cancelled })
        fun _ => rfl }
  | _, _ => none

/-- `renew_subscription`, with the expiry that follows one. -/
def renewSubscription (id : Nat) (next : Int → Int) : Option Database :=
  match db.getSubscription tenantId id, refusal with
  | some _, none => some { db with
      subscriptions := db.subscriptions.modify id
        (fun s => { s with status := .active, expiresAt := next s.expiresAt }) fun _ => rfl }
  | _, _ => none

/-! ## Blocks -/

/-- `_identity_clause`, for a row. -/
def identityClause (phone whatsappLid : Option String) : Option (BlockedClient → Bool) :=
  match truthy phone, truthy whatsappLid with
  | some phone, some lid => some fun b => b.phone = some phone || b.whatsappLid = some lid
  | some phone, none => some fun b => b.phone = some phone
  | none, some lid => some fun b => b.whatsappLid = some lid
  | none, none => none

/-- `find_active`: some row, if there is one. -/
def findActive (phone whatsappLid : Option String) : Option BlockedClient :=
  (identityClause phone whatsappLid).bind fun clause =>
    (db.blocked.select fun b => b.tenantId = tenantId && clause b).head?

/-- `blocked_clients_repository.create`: it raises without an identity. -/
def createBlock (newId : Nat) (phone whatsappLid : Option String) : Option Database :=
  if truthy phone = none ∧ truthy whatsappLid = none then none
  else if (db.blocked.get newId).isSome then none
  else some { db with blocked := db.blocked.insert ⟨newId, tenantId, phone, whatsappLid⟩ }

def unblock (blockId : Nat) : Database :=
  { db with blocked := db.blocked.remove fun b => b.id = blockId && b.tenantId = tenantId }

def clearIdentity (phone whatsappLid : Option String) : Database :=
  match identityClause phone whatsappLid with
  | none => db
  | some clause =>
    { db with blocked := db.blocked.remove fun b => b.tenantId = tenantId && clause b }

end Database

/-! ## The registration of a phone -/

/-- What the console finds under a phone. -/
inductive Registration where
  | unregistered
  | active (client : Client)
  | inactive (client : Client)
  | ambiguous
deriving DecidableEq, Repr

/-- The lookups of a phone: first the active client, and without one any client. -/
def registration (db : Database) (tenantId : Nat) : Option String → Registration
  | none => .unregistered
  | some phone =>
    match db.activeClient tenantId phone with
    | .error _ => .ambiguous
    | .ok (some client) => .active client
    | .ok none =>
      match db.anyClient tenantId phone with
      | .error _ => .ambiguous
      | .ok (some client) => .inactive client
      | .ok none => .unregistered

/-- A registration without the client. -/
inductive Kind where
  | unregistered
  | active
  | inactive
  | ambiguous
deriving DecidableEq, Repr

def Registration.kind : Registration → Kind
  | .unregistered => .unregistered
  | .active _ => .active
  | .inactive _ => .inactive
  | .ambiguous => .ambiguous

def kindOf (db : Database) (tenantId : Nat) (phone : Option String) : Kind :=
  (registration db tenantId phone).kind

variable {db db' : Database} {tenantId newId id : Nat} {phone : String} {client : Client}
  {refusal : Option Refusal} {payload : Database.ClientCreate}

namespace RowsLemmas

section
variable {ρ : Type} {rows : List ρ} {row : ρ} {e : Multiple}

theorem scalar_eq_some : scalarOneOrNone rows = .ok (some row) ↔ rows = [row] := by
  match rows with
  | [] => simp [scalarOneOrNone]
  | [_] => simp [scalarOneOrNone]
  | _ :: _ :: _ => simp [scalarOneOrNone]

theorem scalar_eq_none : scalarOneOrNone rows = .ok none ↔ rows = [] := by
  match rows with
  | [] => simp [scalarOneOrNone]
  | [_] => simp [scalarOneOrNone]
  | _ :: _ :: _ => simp [scalarOneOrNone]

theorem scalar_map {ρ' : Type} {f : ρ → ρ'} :
    scalarOneOrNone (rows.map f) = (scalarOneOrNone rows).map (Option.map f) := by
  match rows with
  | [] => rfl
  | [_] => rfl
  | _ :: _ :: _ => rfl

end

section
variable {κ ρ : Type*} [DecidableEq κ] {key : ρ → κ} {t : Table key} {k : κ} {f : ρ → ρ}
  {hf : ∀ row, key (f row) = key row} {p : ρ → Bool}

theorem select_modify : (t.modify k f hf).select p =
    (t.select fun row => p (if key row = k then f row else row)).map
      fun row => if key row = k then f row else row := by
  unfold Table.select Table.modify
  rw [List.filter_map]
  rfl

end

/-- The rows of the tenant with the phone. -/
def holders (db : Database) (tenantId : Nat) (phone : String) : List Client :=
  db.clients.select fun c => c.tenantId = tenantId && phoneMatches phone c.phone

theorem activeClient_eq : db.activeClient tenantId phone =
    scalarOneOrNone ((holders db tenantId phone).filter (·.isActive)) := by
  unfold Database.activeClient holders Table.select
  rw [List.filter_filter]
  refine congrArg scalarOneOrNone (List.filter_congr fun c _ => ?_)
  cases c.isActive <;> simp

theorem anyClient_eq :
    db.anyClient tenantId phone = scalarOneOrNone (holders db tenantId phone) := rfl

/-- The registration that rows with a phone make. -/
def classify (rows : List Client) : Registration :=
  match scalarOneOrNone (rows.filter (·.isActive)), scalarOneOrNone rows with
  | .error _, _ => .ambiguous
  | .ok (some client), _ => .active client
  | .ok none, .error _ => .ambiguous
  | .ok none, .ok (some client) => .inactive client
  | .ok none, .ok none => .unregistered

theorem registration_eq :
    registration db tenantId (some phone) = classify (holders db tenantId phone) := by
  rw [registration, activeClient_eq, anyClient_eq, classify]
  cases scalarOneOrNone ((holders db tenantId phone).filter (·.isActive)) with
  | error e => rfl
  | ok found =>
    cases found with
    | some c => rfl
    | none => cases scalarOneOrNone (holders db tenantId phone) with
      | error e => rfl
      | ok found => cases found <;> rfl

theorem classify_eq_active {rows : List Client} :
    classify rows = .active client ↔ rows.filter (·.isActive) = [client] := by
  rw [← scalar_eq_some, classify]
  cases scalarOneOrNone (rows.filter (·.isActive)) with
  | error e => simp
  | ok found =>
    cases found with
    | some c => simp
    | none => cases scalarOneOrNone rows with
      | error e => simp
      | ok found => cases found <;> simp

/-- The registration that rows make without an active one. -/
def classifyInactive : List Client → Registration
  | [] => .unregistered
  | [client] => .inactive client
  | _ => .ambiguous

theorem classify_of_inactive {rows : List Client} (h : rows.filter (·.isActive) = []) :
    classify rows = classifyInactive rows := by
  rw [classify, h]
  match rows with
  | [] => rfl
  | [_] => rfl
  | _ :: _ :: _ => rfl

theorem inactive_of_classify {rows : List Client}
    (h : classify rows = .unregistered ∨ classify rows = .inactive client) :
    rows.filter (·.isActive) = [] := by
  rw [← scalar_eq_none]
  cases hscalar : scalarOneOrNone (rows.filter (·.isActive)) with
  | error e => simp [classify, hscalar] at h
  | ok found =>
    cases found with
    | some c => simp [classify, hscalar] at h
    | none => rfl

theorem classify_eq_unregistered {rows : List Client} :
    classify rows = .unregistered ↔ rows = [] := by
  constructor
  · intro h
    rw [classify_of_inactive (@inactive_of_classify default _ (Or.inl h))] at h
    match rows with
    | [] => rfl
    | [_] => cases h
    | _ :: _ :: _ => cases h
  · rintro rfl
    rfl

theorem classify_eq_inactive {rows : List Client} :
    classify rows = .inactive client ↔ rows = [client] ∧ client.isActive = false := by
  constructor
  · intro h
    have hnone := inactive_of_classify (Or.inr h)
    rw [classify_of_inactive hnone] at h
    match rows with
    | [] => cases h
    | [c] =>
      cases h
      exact ⟨rfl, by simpa using hnone⟩
    | _ :: _ :: _ => cases h
  · rintro ⟨rfl, hc⟩
    rw [classify_of_inactive (by simp [hc])]
    rfl

/-! ## Operations -/

theorem changeClient_eq_ok {f : Client → Client} {hf : ∀ c, (f c).id = c.id}
    {found : Option Client} (h : db.changeClient tenantId refusal id f hf = .ok (found, db')) :
    (found = none ∧ db.getClient tenantId id = none ∧ db' = db) ∨
      ∃ c, db.getClient tenantId id = some c ∧ found = some (f c) ∧
        db' = { db with clients := db.clients.modify id f hf } := by
  unfold Database.changeClient at h
  split at h
  · next hget =>
    cases h
    exact Or.inl ⟨rfl, hget, rfl⟩
  · next c hget =>
    split at h
    · cases h
    · cases h
      exact Or.inr ⟨c, hget, rfl, rfl⟩

theorem holders_modify {f : Client → Client} {hf : ∀ c, (f c).id = c.id}
    (hkeep : ∀ c, (f c).tenantId = c.tenantId ∧ (f c).phone = c.phone) :
    holders { db with clients := db.clients.modify id f hf } tenantId phone =
      (holders db tenantId phone).map fun c => if c.id = id then f c else c := by
  unfold holders
  rw [select_modify]
  refine congrArg (fun p => (db.clients.select p).map _) (funext fun c => ?_)
  split
  · rw [(hkeep c).1, (hkeep c).2]
  · rfl

theorem keep_setField {payload : Option (Database.EditField × String)} :
    (Database.setField payload client).tenantId = client.tenantId ∧
      (Database.setField payload client).phone = client.phone := by
  unfold Database.setField
  split <;> exact ⟨rfl, rfl⟩

theorem mem_of_holders (h : client ∈ holders db tenantId phone) :
    client ∈ db.clients.rows ∧ client.tenantId = tenantId := by
  obtain ⟨hmem, hp⟩ := List.mem_filter.mp h
  exact ⟨hmem, of_decide_eq_true (Bool.and_eq_true_iff.mp hp).1⟩

theorem getClient_of_holders (h : client ∈ holders db tenantId phone) :
    db.getClient tenantId client.id = some client := by
  obtain ⟨hmem, htenant⟩ := mem_of_holders h
  unfold Database.getClient
  rw [Table.get_of_mem hmem, Option.filter_some, if_pos (by simp [htenant])]

theorem phoneMatches_normalize {raw : String} {stored : Option String}
    (h : normalizePhone (some raw) = some phone) :
    phoneMatches raw stored = phoneMatches phone stored := by
  unfold phoneMatches
  rw [h, normalizePhone_idem h]
  rfl

theorem holders_normalize {raw : String} (h : normalizePhone (some raw) = some phone) :
    holders db tenantId raw = holders db tenantId phone := by
  unfold holders
  refine congrArg db.clients.select (funext fun c => ?_)
  rw [phoneMatches_normalize h]

end RowsLemmas

open RowsLemmas

theorem mem_of_active (h : registration db tenantId (some phone) = .active client) :
    client ∈ holders db tenantId phone ∧ client.isActive = true := by
  rw [registration_eq, classify_eq_active] at h
  have hmem : client ∈ (holders db tenantId phone).filter (·.isActive) := by simp [h]
  exact List.mem_filter.mp hmem

theorem mem_of_inactive (h : registration db tenantId (some phone) = .inactive client) :
    client ∈ holders db tenantId phone := by
  rw [registration_eq, classify_eq_inactive] at h
  simp [h.1]

theorem registration_congr (h : db'.clients = db.clients) {phone : Option String} :
    registration db' tenantId phone = registration db tenantId phone := by
  cases phone with
  | none => rfl
  | some phone => rw [registration_eq, registration_eq, holders, holders, h]

theorem kind_update {payload : Option (Database.EditField × String)} {found : Option Client}
    (h : db.updateClient tenantId refusal id payload = .ok (found, db'))
    {phone : Option String} : kindOf db' tenantId phone = kindOf db tenantId phone := by
  cases phone with
  | none => rfl
  | some phone =>
    obtain ⟨-, -, rfl⟩ | ⟨c, -, -, rfl⟩ := changeClient_eq_ok h
    · rfl
    have hactive : ∀ rows : List Client,
        ((rows.map fun c => if c.id = id then Database.setField payload c else c).filter
          (·.isActive)) = (rows.filter (·.isActive)).map
            fun c => if c.id = id then Database.setField payload c else c := by
      intro rows
      rw [List.filter_map]
      refine congrArg (List.map _) (List.filter_congr fun c _ => ?_)
      simp only [Function.comp_apply]
      split
      · unfold Database.setField
        split <;> rfl
      · rfl
    unfold kindOf
    rw [registration_eq, registration_eq, holders_modify fun c => keep_setField,
      classify, classify, hactive, scalar_map, scalar_map]
    cases scalarOneOrNone ((holders db tenantId phone).filter (·.isActive)) with
    | error e => rfl
    | ok found =>
      cases found with
      | some c => rfl
      | none => cases scalarOneOrNone (holders db tenantId phone) with
        | error e => rfl
        | ok found => cases found <;> rfl

theorem kind_deactivate (hactive : registration db tenantId (some phone) = .active client)
    {found : Option Client}
    (h : db.deactivateClient tenantId refusal client.id = .ok (found, db')) :
    kindOf db' tenantId (some phone) =
      if (holders db tenantId phone).length = 1 then .inactive else .ambiguous := by
  obtain ⟨hmem, -⟩ := mem_of_active hactive
  obtain ⟨-, hnone, -⟩ | ⟨c, hget, -, rfl⟩ := changeClient_eq_ok h
  · rw [getClient_of_holders hmem] at hnone
    cases hnone
  have hfilter : ((holders db tenantId phone).map fun c =>
      if c.id = client.id then { c with isActive := false } else c).filter (·.isActive) = [] := by
    refine List.filter_eq_nil_iff.mpr fun row hrow => ?_
    obtain ⟨old, hold, rfl⟩ := List.mem_map.mp hrow
    split
    · simp
    · next hne =>
      intro hactive'
      rw [registration_eq, classify_eq_active] at hactive
      have hin : old ∈ (holders db tenantId phone).filter (·.isActive) :=
        List.mem_filter.mpr ⟨hold, hactive'⟩
      rw [hactive, List.mem_singleton] at hin
      exact hne (congrArg Client.id hin)
  unfold kindOf
  rw [registration_eq, holders_modify (f := fun c => { c with isActive := false })
    fun c => ⟨rfl, rfl⟩, classify_of_inactive hfilter]
  match hrows : holders db tenantId phone with
  | [] =>
    rw [hrows] at hmem
    cases hmem
  | [_] => rfl
  | _ :: _ :: _ => simp [classifyInactive, Registration.kind]

theorem kind_activate (hinactive : registration db tenantId (some phone) = .inactive client)
    {found : Option Client}
    (h : db.activateClient tenantId refusal client.id = .ok (found, db')) :
    kindOf db' tenantId (some phone) = .active := by
  have hmem := mem_of_inactive hinactive
  obtain ⟨-, hnone, -⟩ | ⟨c, -, -, rfl⟩ := changeClient_eq_ok h
  · rw [getClient_of_holders hmem] at hnone
    cases hnone
  rw [registration_eq, classify_eq_inactive] at hinactive
  unfold kindOf
  rw [registration_eq, holders_modify (f := fun c => { c with isActive := true })
    fun c => ⟨rfl, rfl⟩, hinactive.1, List.map_cons, if_pos rfl]
  rfl

theorem createClient_eq_ok {tenantExists : Bool}
    (h : db.createClient tenantId refusal tenantExists newId payload = .ok (some client, db')) :
    client = ⟨newId, tenantId, payload.fullName, payload.localUsername, payload.phone, none, true⟩ ∧
      db.clients.get newId = none ∧ db' = { db with clients := db.clients.insert client } := by
  unfold Database.createClient at h
  split at h
  · cases h
  · split at h
    · cases h
    · split at h
      · cases h
      · next hfresh =>
        split at h
        · cases h
        · cases h
          exact ⟨rfl, by simpa using hfresh, rfl⟩

theorem holders_create {tenantExists : Bool}
    (h : db.createClient tenantId refusal tenantExists newId payload = .ok (some client, db')) :
    holders db' tenantId phone =
      (if phoneMatches phone client.phone then [client] else []) ++ holders db tenantId phone := by
  obtain ⟨rfl, hfresh, rfl⟩ := createClient_eq_ok h
  have hnew : newId ∉ db.clients.rows.map Client.id := by
    intro hmem
    obtain ⟨row, hrow, heq⟩ := List.mem_map.mp hmem
    exact Table.get_eq_none.mp hfresh row hrow heq
  unfold holders Table.select
  dsimp only
  rw [Table.insert, dif_neg hnew, List.filter_cons]
  by_cases hp : phoneMatches phone payload.phone = true
  · rw [if_pos (by simpa using hp), if_pos hp]
    rfl
  · rw [if_neg (by simpa using hp), if_neg hp]
    rfl

theorem kind_create {tenantExists : Bool}
    (hnone : registration db tenantId (some phone) = .unregistered)
    (h : db.createClient tenantId refusal tenantExists newId payload = .ok (some client, db')) :
    kindOf db' tenantId (some phone) =
      if phoneMatches phone client.phone then .active else .unregistered := by
  rw [registration_eq, classify_eq_unregistered] at hnone
  unfold kindOf
  rw [registration_eq, holders_create h, hnone, List.append_nil]
  obtain ⟨rfl, -, -⟩ := createClient_eq_ok h
  split <;> rfl

end Trackpal.Console
