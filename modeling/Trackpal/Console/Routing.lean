import Mathlib.Algebra.Ring.Nat
import Trackpal.Console.Tenants

/-!
# The routing of the console

Where a request goes: the tenant is that of the instance, a message of the instance itself is a
trigger of its admin, and the sender of any other message is an admin, a client, or neither.

Results:
1. `silent_routeInbound`: the senders that get no reply are those that are blocked, and the admin of
   another tenant who asks for a menu.
-/

namespace Trackpal.Console

open Trackpal.Foundation

/-- `WhatsAppConsoleRequest`. -/
structure Request where
  phone : String
  message : String
  instanceName : Option String
  senderLid : Option String
  fromMe : Bool
  adminPhone : Option String
  adminJid : Option String
  targetJid : Option String
  targetPhone : Option String
  targetLid : Option String
deriving DecidableEq, Repr

inductive RouteReply where
  | accessDenied
  | accessDeniedClosed
  | inactivityClosed
  | multipleMatches
  | notRegistered
  | contextClosed
deriving DecidableEq, Repr

/-- Where a request goes. -/
inductive Destination where
  | reply (text : RouteReply)
  | silent
  /-- The shortcut of the admin, and behind it the console of the tenant. -/
  | admin (phone : String)
  /-- The choice of an admin that is a client as well. -/
  | ambiguity (phone : String) (client : Client)
  /-- The shortcut of the admin, and behind it the console or the choice. -/
  | selfChat (phone : String)
  /-- `_handle_unauthenticated_codigo`. -/
  | codigo (phoneDigits : String) (senderLid : Option String)
  | clientConsole (client : Client)
  /-- `_cancel_target_codigo_flow`. -/
  | remoteCancel (targetPhone targetLid : Option String)
  /-- The record of the shortcut is deleted. -/
  | closeContext (adminPhone : String)
  /-- A record of the shortcut is made. -/
  | openContext (adminPhone adminJid : String)
  | raised
deriving DecidableEq, Repr

def inactivityTimeoutMessage : String := "__trackpal_session_timeout__"

/-! ## The sessions of a lookup -/

def hexDigit (n : Nat) : Char := "0123456789abcdef".toList.getD n '0'

/-- The first eight digits of `str(tenant_id)`. -/
def uuidHead (id : Nat) : String :=
  .ofList ((List.range 8).map fun i => hexDigit (id / 16 ^ (31 - i) % 16))

def unauthSessionKey (phoneDigits : String) (senderLid : Option String) (tenantId : Nat) :
    String :=
  let key := "unreg:" ++ uuidHead tenantId ++ ":"
  if phoneDigits ≠ "" then key ++ phoneDigits
  else match truthy senderLid with
    | some lid => key ++ lid
    | none => key ++ "unknown"

def codigoKeywords : List String := ["codigo", "código", "code"]

/-! ## Senders -/

def isTenantAdmin (tenant : Tenant) (phoneDigits : String) (senderLid : Option String) : Bool :=
  ((truthy tenant.whatsappPhone).isSome && phoneDigits ≠ "" &&
      normalizePhone tenant.whatsappPhone = some phoneDigits) ||
    ((truthy senderLid).isSome && tenant.whatsappLid = senderLid)

inductive SenderClient where
  | found (client : Option Client)
  | multiple
  | raised
deriving DecidableEq, Repr

def senderClient (db : Database) (tenantId : Nat) (phoneDigits : String)
    (senderLid : Option String) : SenderClient :=
  match if phoneDigits ≠ "" then db.activeClient tenantId phoneDigits else .ok none with
  | .error _ => .multiple
  | .ok (some client) => .found (some client)
  | .ok none =>
    match (truthy senderLid).elim (.ok none) (db.activeClientByLid tenantId) with
    | .error _ => .raised
    | .ok client => .found client

def shouldSilenceExternalAdminMenu (dir : Directory) (tenant : Tenant) (phoneDigits : String)
    (senderLid : Option String) (message : String) : Bool :=
  clean message = "/menu" && !isTenantAdmin tenant phoneDigits senderLid &&
    match dir.getActiveByWhatsappIdentity (some phoneDigits) senderLid with
    | .ok (some matched) => matched.id ≠ tenant.id
    | _ => false

/-- The part of `_route_by_instance` for a message of a sender that is not blocked. `inLookup`
holds for the session of a lookup. -/
def routeSender (inLookup : String → Bool) (dir : Directory) (db : Database) (tenant : Tenant)
    (phoneDigits : String) (senderLid : Option String) (message : String) : Destination :=
  let isKeyword := clean message ∈ codigoKeywords
  let resumes := inLookup (unauthSessionKey phoneDigits senderLid tenant.id)
  match senderClient db tenant.id phoneDigits senderLid with
  | .multiple => .reply .multipleMatches
  | .raised => .raised
  | .found client =>
    match isTenantAdmin tenant phoneDigits senderLid, client with
    | true, some client => .ambiguity phoneDigits client
    | true, none => .admin phoneDigits
    | false, some client =>
      if isKeyword || resumes then .codigo phoneDigits senderLid
      else if tenant.plan = .starter then .reply .accessDeniedClosed
      else .clientConsole client
    | false, none =>
      if shouldSilenceExternalAdminMenu dir tenant phoneDigits senderLid message then .silent
      else if isKeyword || resumes then .codigo phoneDigits senderLid
      else .reply .notRegistered

/-- `_route_by_instance` for a message that is not of the instance itself. -/
def routeInbound (inLookup : String → Bool) (dir : Directory) (db : Database) (tenant : Tenant)
    (phone : String) (senderLid : Option String) (message : String) : Destination :=
  let phoneDigits := (normalizePhone (some phone)).getD phone
  if (db.findActive tenant.id (some phoneDigits) senderLid).isSome then .silent
  else routeSender inLookup dir db tenant phoneDigits senderLid message

/-! ## Triggers -/

def resolvedAdminPhone (tenant : Tenant) (adminPhone : Option String) : Option String :=
  normalizePhone (truthy tenant.whatsappPhone) <|> normalizePhone (truthy adminPhone)

def resolvedAdminJid (adminPhone : String) (adminJid : Option String) : String :=
  ((truthy (canonicalJid adminJid)).getD ((truthy adminJid).getD (phoneJid adminPhone)))

/-- The chat of a trigger is the admin's own. -/
def isSelfTarget (tenant : Tenant) (adminPhone : String) (r : Request) : Bool :=
  let targets := [normalizePhone (truthy r.targetPhone), jidPhone r.targetJid]
  let admins := [some adminPhone, jidPhone r.adminJid]
  (targets.any fun target => admins.any fun admin =>
      (truthy target).isSome && (truthy admin).isSome && target = admin) ||
    (truthy tenant.whatsappLid).any (fun lid => r.targetLid = some lid || r.targetJid = some lid) ||
    (truthy r.targetJid).any (· = resolvedAdminJid adminPhone r.adminJid)

/-- `_handle_from_me_routing`. `inContext` holds for a phone with a record of the shortcut. -/
def routeFromMe (inContext : String → Bool) (tenant : Tenant) (r : Request) : Destination :=
  match resolvedAdminPhone tenant r.adminPhone with
  | none => .silent
  | some adminPhone =>
    if isSelfTarget tenant adminPhone r then .selfChat adminPhone
    else if strip r.message = "0" then
      .remoteCancel (normalizePhone (truthy r.targetPhone)) r.targetLid
    else if inContext adminPhone then
      if clean r.message ∈ ["0", "salir", "cerrar"] then .closeContext adminPhone else .silent
    else if clean r.message ∈ ["/menu", "menu"] then
      .openContext adminPhone (resolvedAdminJid adminPhone r.adminJid)
    else .silent

/-! ## Requests -/

/-- The part of `_route_by_instance` for the instance of a tenant. -/
def routeTenant (inLookup inContext : String → Bool) (dir : Directory) (db : Database)
    (tenant : Tenant) (r : Request) : Destination :=
  if tenant.isDemo then .silent
  else if !tenant.isActive then .reply .accessDenied
  else if clean r.message = inactivityTimeoutMessage then .reply .inactivityClosed
  else if r.fromMe then routeFromMe inContext tenant r
  else routeInbound inLookup dir db tenant ((normalizePhone (some r.phone)).getD "") r.senderLid
    r.message

variable {inLookup inContext : String → Bool} {dir : Directory} {db : Database} {tenant : Tenant}
  {phone phoneDigits message : String} {senderLid : Option String}

/-- The command of the admin of another tenant, who is neither an admin nor a client here. -/
def isExternalMenu (dir : Directory) (db : Database) (tenant : Tenant) (phoneDigits : String)
    (senderLid : Option String) (message : String) : Bool :=
  senderClient db tenant.id phoneDigits senderLid = .found none &&
    shouldSilenceExternalAdminMenu dir tenant phoneDigits senderLid message

theorem silent_routeSender :
    routeSender inLookup dir db tenant phoneDigits senderLid message = .silent ↔
      isExternalMenu dir db tenant phoneDigits senderLid message = true := by
  unfold routeSender isExternalMenu
  dsimp only
  cases hclient : senderClient db tenant.id phoneDigits senderLid with
  | multiple => simp
  | raised => simp
  | found client =>
    cases client with
    | some client =>
      cases isTenantAdmin tenant phoneDigits senderLid with
      | true => simp
      | false =>
        refine iff_of_false ?_ (by simp)
        dsimp only
        split
        · exact fun h => by cases h
        · split <;> exact fun h => by cases h
    | none =>
      cases hadmin : isTenantAdmin tenant phoneDigits senderLid with
      | true => simp [shouldSilenceExternalAdminMenu, hadmin]
      | false =>
        cases hmenu : shouldSilenceExternalAdminMenu dir tenant phoneDigits senderLid message with
        | true => simp
        | false =>
          refine iff_of_false ?_ (by simp)
          dsimp only
          rw [if_neg Bool.false_ne_true]
          split <;> exact fun h => by cases h

theorem silent_routeInbound : routeInbound inLookup dir db tenant phone senderLid message = .silent ↔
    (db.findActive tenant.id (some ((normalizePhone (some phone)).getD phone)) senderLid).isSome ∨
      isExternalMenu dir db tenant ((normalizePhone (some phone)).getD phone) senderLid message =
        true := by
  unfold routeInbound
  dsimp only
  split
  · next h => exact iff_of_true rfl (Or.inl h)
  · next h => rw [silent_routeSender, or_iff_right h]

end Trackpal.Console
