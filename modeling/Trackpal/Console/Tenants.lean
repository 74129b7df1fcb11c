import Trackpal.Console.Rows

/-!
# Tenants and their admins

The tables of the accounts, and the queries that find a tenant by its instance, by its id and by the
phone or the address of its admin.
-/

namespace Trackpal.Console

open Trackpal.Foundation RowsLemmas

/-! ## Tables -/

inductive Plan where
  | pro
  | starter
deriving DecidableEq, Repr

inductive Role where
  | master
  | tenant
  | client
deriving DecidableEq, Repr

/-- A row of `users`. -/
structure User where
  id : Nat
  role : Role
deriving DecidableEq, Repr

/-- A row of `tenants`. -/
structure Tenant where
  id : Nat
  ownerUserId : Nat
  whatsappPhone : Option String
  whatsappLid : Option String
  evolutionInstanceName : Option String
  plan : Plan
  isActive : Bool
  isDemo : Bool
deriving DecidableEq, Repr

/-- The accounts. -/
structure Directory where
  tenants : Table Tenant.id
  users : Table User.id

/-! ## Queries -/

namespace Directory

variable (dir : Directory)

def instanceAliases (instanceName : String) : List String :=
  let raw := strip instanceName
  if raw = "" then []
  else if "tenant-".toList <+: raw.toList then
    [raw, .ofList (raw.toList.drop "tenant-".length)].filter (· ≠ "")
  else [raw, "tenant-" ++ raw]

/-- `tenants_repository.get_by_instance`. -/
def getByInstance (instanceName : String) : Except Multiple (Option Tenant) :=
  match instanceAliases instanceName with
  | [] => .ok none
  | aliases => scalarOneOrNone (dir.tenants.select fun tenant =>
      tenant.evolutionInstanceName.any (· ∈ aliases))

/-- `tenants_repository.get_by_id_or_owner`. -/
def getByIdOrOwner (tenantId : Nat) : Except Multiple (Option Tenant) :=
  scalarOneOrNone (dir.tenants.select fun tenant =>
    tenant.id = tenantId || tenant.ownerUserId = tenantId)

def getActiveByWhatsappIdentity (phoneDigits whatsappLid : Option String) :
    Except Multiple (Option Tenant) :=
  let phoneNorm := normalizePhone (truthy phoneDigits)
  let lid := truthy (whatsappLid.map strip)
  if phoneNorm = none ∧ lid = none then .ok none
  else scalarOneOrNone (dir.tenants.select fun tenant => tenant.isActive &&
    (phoneNorm.any (phoneMatches · tenant.whatsappPhone) ||
      lid.any (tenant.whatsappLid = some ·)))

end Directory

/-- `get_active_client_by_tenant_lid`. -/
def Database.activeClientByLid (db : Database) (tenantId : Nat) (lid : String) :
    Except Multiple (Option Client) :=
  scalarOneOrNone (db.clients.select fun c =>
    c.tenantId = tenantId && c.whatsappLid = some lid && c.isActive)

end Trackpal.Console
