import Trackpal.Foundation.Batches
import Trackpal.Foundation.Runs
import Trackpal.Foundation.Table
import Trackpal.Foundation.Text

/-!
# Client usernames

The username of a client is the prefix of its tenant, an underscore and a local part. The local
part is stored nowhere else: it is what follows the first underscore. It is set when the client is
created or updated, and a change of the prefix rewrites the usernames of all clients of the tenant.
-/

namespace Trackpal.Accounts.Usernames

open Trackpal.Foundation

/-! ## Names -/

def buildClientUsername (clientPrefix localUsername : String) : String :=
  clientPrefix ++ "_" ++ localUsername

/-- `username.split("_", 1)[1]`, or the username itself if it has no underscore. -/
def splitLocal (username : String) : String :=
  if '_' ∈ username.toList then .ofList ((username.toList.dropWhile (· ≠ '_')).drop 1)
  else username

/-- `[a-z]`. -/
def isLower (c : Char) : Bool := 'a' ≤ c && c ≤ 'z'

/-- `[a-z0-9]`. -/
def isPrefixChar (c : Char) : Bool := isLower c || ('0' ≤ c && c ≤ '9')

/-- `[a-z0-9_]`. -/
def isNameChar (c : Char) : Bool := isPrefixChar c || c = '_'

/-- `^[a-z]…*$`, for a text that has been stripped, which does not end with a line break. -/
def startsLower (rest : Char → Bool) (text : String) : Bool :=
  match text.toList with
  | [] => false
  | first :: others => isLower first && others.all rest

structure InputValidationError where
  field : String
  message : String
  code : String
deriving DecidableEq, Repr

def validateClientPrefix (value : String) : Except InputValidationError String :=
  let stripped := lower (stripBy isSpace value)
  if stripBy isSpace value = "" then
    .error ⟨"client_prefix", "Client prefix is required.", "client_prefix_required"⟩
  else if 5 < stripped.length then
    .error ⟨"client_prefix", "Client prefix must be at most 5 characters.",
      "client_prefix_too_long"⟩
  else if !startsLower isPrefixChar stripped then
    .error ⟨"client_prefix",
      "Client prefix must start with a lowercase letter and contain only " ++
        "lowercase letters and digits.",
      "client_prefix_invalid"⟩
  else .ok stripped

def validateClientLocalUsername (value : String) : Except InputValidationError String :=
  let stripped := stripBy isSpace value
  if stripped = "" then
    .error ⟨"local_username", "Client local username is required.",
      "client_local_username_required"⟩
  else if value ≠ stripped then
    .error ⟨"local_username", "Client local username must not start or end with spaces.",
      "client_local_username_leading_trailing_spaces"⟩
  else if 94 < stripped.length then
    .error ⟨"local_username", "Client local username must be at most 94 characters.",
      "client_local_username_too_long"⟩
  else if !startsLower isNameChar stripped then
    .error ⟨"local_username",
      "Client local username must start with a lowercase letter and contain " ++
        "only lowercase letters, digits, and underscores.",
      "client_local_username_invalid"⟩
  else .ok stripped

/-! ## Rows -/

/-- A row of `users`. -/
structure User where
  id : Nat
  username : String
deriving DecidableEq, Repr

/-- A row of `clients`. -/
structure Client where
  id : Nat
  tenantId : Nat
  ownerUserId : Nat
  fullName : String
  username : String
  phone : Option String
deriving DecidableEq, Repr

/-- A row of `tenants`. -/
structure Tenant where
  id : Nat
  clientPrefix : String
deriving DecidableEq, Repr

/-- The tables. -/
structure Database where
  users : Table User.id
  clients : Table Client.id
  tenants : Table Tenant.id

inductive Violation where
  | usersUsername
  | clientsTenantLowerUsername
  | notNull
deriving DecidableEq, Repr

/-- How an operation fails. An `IntegrityError` is raised as another error; a `DataError`, for a
value that is too long for its column, is not caught. -/
inductive Failure where
  | inputValidation (error : InputValidationError)
  | userFacing (code : String)
  | valueError (text : String)
  | integrity (violation : Violation) (raised : String)
  | dataError
deriving DecidableEq, Repr

def Failure.collision : Failure → Bool
  | .userFacing code =>
    code = "client_local_username_exists" || code = "username_already_registered"
  | .integrity .usersUsername _ | .integrity .clientsTenantLowerUsername _ => true
  | _ => false

structure Validators where
  fullName : String → Except InputValidationError String
  phone : Option String → Except InputValidationError (Option String)
  passwordPolicy : String → Except InputValidationError String

/-- `ClientCreate`, with the identifiers that the rows will have. -/
structure ClientCreate where
  userId : Nat
  clientId : Nat
  fullName : String
  localUsername : String
  phone : Option String
  password : String
deriving DecidableEq, Repr

/-- `ClientUpdate`: a field is unset, null or a value. -/
structure ClientUpdate where
  fullName : Option (Option String)
  localUsername : Option (Option String)
  phone : Option (Option String)
deriving DecidableEq, Repr

namespace Database

variable (db : Database)

/-- `clients_repository.local_username_exists`. -/
def localUsernameExists (tenantId : Nat) (canonical : String) (excludeId : Option Nat) : Bool :=
  db.clients.rows.any fun c =>
    c.tenantId = tenantId && lower c.username = lower canonical && excludeId ≠ some c.id

/-- `clients_repository.phone_exists`. -/
def phoneExists (tenantId : Nat) (phone : String) (excludeId : Option Nat) : Bool :=
  db.clients.rows.any fun c =>
    c.tenantId = tenantId && c.phone = some phone && excludeId ≠ some c.id

/-- `users_repository.username_exists`. -/
def usernameExists (username : String) (excludeUserId : Option Nat) : Bool :=
  db.users.rows.any fun u => u.username = username && excludeUserId ≠ some u.id

/-- `tenants_repository.client_prefix_exists`. -/
def clientPrefixExists (clientPrefix : String) (excludeId : Nat) : Bool :=
  db.tenants.rows.any fun t => t.clientPrefix = clientPrefix && t.id ≠ excludeId

/-- `UPDATE users SET username`. -/
def setUsername (id : Nat) (username raised : String) : Except Failure Database :=
  if 100 < username.length then .error .dataError
  else if db.usernameExists username (some id) then .error (.integrity .usersUsername raised)
  else .ok { db with
    users := db.users.modify id (fun u => { u with username := username }) fun _ => rfl }

/-- `UPDATE clients SET username`. -/
def setClientUsername (tenantId id : Nat) (username raised : String) : Except Failure Database :=
  if 94 < username.length then .error .dataError
  else if db.localUsernameExists tenantId username (some id) then
    .error (.integrity .clientsTenantLowerUsername raised)
  else .ok { db with
    clients := db.clients.modify id (fun c => { c with username := username }) fun _ => rfl }

end Database

/-! ## Operations -/

def validated {α : Type} : Except InputValidationError α → Except Failure α
  | .ok value => .ok value
  | .error error => .error (.inputValidation error)

def raiseIf (condition : Bool) (failure : Failure) : Except Failure Unit :=
  if condition then .error failure else .ok ()

/-- `create_client`, for a tenant that exists. -/
def createClient (validators : Validators) (db : Database) (tenant : Tenant)
    (payload : ClientCreate) : Except Failure Database := do
  let fullName ← validated (validators.fullName payload.fullName)
  let localUsername ← validated (validateClientLocalUsername payload.localUsername)
  let phone ← validated (validators.phone payload.phone)
  let _ ← validated (validators.passwordPolicy payload.password)
  let canonical := buildClientUsername tenant.clientPrefix localUsername
  raiseIf (db.localUsernameExists tenant.id canonical none)
    (.userFacing "client_local_username_exists")
  raiseIf (phone.any fun phone => db.phoneExists tenant.id phone none)
    (.userFacing "phone_already_registered")
  raiseIf (db.usernameExists canonical none) (.userFacing "username_already_registered")
  raiseIf (94 < canonical.length) .dataError
  pure { db with
    users := db.users.insert ⟨payload.userId, canonical⟩
    clients := db.clients.insert
      ⟨payload.clientId, tenant.id, payload.userId, fullName, canonical, phone⟩ }

/-- The text of a value in an f-string: a null is `None`. -/
def textOf (value : Option String) : String := value.getD "None"

def validatedField (validate : String → Except InputValidationError String) :
    Option (Option String) → Except Failure (Option (Option String))
  | some (some value) => (validated (validate value)).map fun value => some (some value)
  | field => .ok field

def validatedPhone (validators : Validators) :
    Option (Option String) → Except Failure (Option (Option String))
  | some phone => (validated (validators.phone phone)).map some
  | none => .ok none

/-- `update_client`, for a client that exists. -/
def updateClient (validators : Validators) (db : Database) (tenant : Tenant) (client : Client)
    (payload : ClientUpdate) : Except Failure Database := do
  let fullName ← validatedField validators.fullName payload.fullName
  let localUsername ← validatedField validateClientLocalUsername payload.localUsername
  let phone ← validatedPhone validators payload.phone
  let newLocal := localUsername.getD (some (splitLocal client.username))
  let canonical := buildClientUsername tenant.clientPrefix (textOf newLocal)
  raiseIf (newLocal ≠ some (splitLocal client.username) &&
      db.localUsernameExists tenant.id canonical (some client.id))
    (.userFacing "client_local_username_exists")
  raiseIf (phone.any fun phone => phone ≠ client.phone &&
      phone.any fun phone => db.phoneExists tenant.id phone (some client.id))
    (.userFacing "phone_already_registered")
  raiseIf ((db.users.get client.ownerUserId).any (fun u => u.username ≠ canonical) &&
      db.usernameExists canonical (some client.ownerUserId))
    (.userFacing "username_already_registered")
  let renamed ← db.setUsername client.ownerUserId canonical "client_update_failed"
  raiseIf (fullName = some none) (.integrity .notNull "client_update_failed")
  let updated ← renamed.setClientUsername tenant.id client.id canonical "client_update_failed"
  pure { updated with
    clients := updated.clients.modify client.id
      (fun c => { c with
        fullName := (fullName.getD (some c.fullName)).getD c.fullName
        phone := phone.getD c.phone }) fun _ => rfl }

/-- `sync_client_usernames_for_tenant`: the updates of `users`, and then the ones of `clients`. -/
def syncClientUsernames (db : Database) (tenantId : Nat) (newPrefix raised : String) :
    Except Failure Database := do
  let clients := db.clients.select fun c => c.tenantId = tenantId
  let renamed ← clients.foldlM (fun db c =>
    db.setUsername c.ownerUserId (buildClientUsername newPrefix (splitLocal c.username)) raised) db
  clients.foldlM (fun db c => db.setClientUsername tenantId c.id
    (buildClientUsername newPrefix (splitLocal c.username)) raised) renamed

/-- The part of `update_tenant` that changes the prefix, for a tenant that exists. -/
def updatePrefix (db : Database) (tenant : Tenant) (newPrefix : String) :
    Except Failure Database := do
  let newPrefix ← validated (validateClientPrefix newPrefix)
  if newPrefix = tenant.clientPrefix then pure db
  else
    raiseIf (db.clientPrefixExists newPrefix tenant.id)
      (.valueError "Prefijo de cliente ya registrado")
    let synced ← syncClientUsernames db tenant.id newPrefix
      "No se pudo actualizar el prefijo de cliente"
    pure { synced with
      tenants := synced.tenants.modify tenant.id
        (fun t => { t with clientPrefix := newPrefix }) fun _ => rfl }

/-- The operations. -/
inductive Action where
  | createClient (tenantId : Nat) (payload : ClientCreate)
  | updateClient (tenantId clientId : Nat) (payload : ClientUpdate)
  | updatePrefix (tenantId : Nat) (newPrefix : String)
deriving DecidableEq, Repr

/-- What an operation does: a tenant or a client that does not exist changes nothing. -/
def perform (validators : Validators) (db : Database) : Action → Except Failure Database
  | .createClient tenantId payload =>
    match db.tenants.get tenantId with
    | some tenant => createClient validators db tenant payload
    | none => .ok db
  | .updateClient tenantId clientId payload =>
    match db.tenants.get tenantId, db.clients.get clientId with
    | some tenant, some client =>
      if client.tenantId = tenantId then updateClient validators db tenant client payload
      else .ok db
    | _, _ => .ok db
  | .updatePrefix tenantId newPrefix =>
    match db.tenants.get tenantId with
    | some tenant => updatePrefix db tenant newPrefix
    | none => .ok db

/-- The identifiers of the rows of a new client are new. -/
def Action.fresh (db : Database) : Action → Bool
  | .createClient _ payload =>
    (db.users.get payload.userId).isNone && (db.clients.get payload.clientId).isNone
  | _ => true

def step (validators : Validators) (db : Database) (action : Action) : Option Database :=
  if action.fresh db then
    match perform validators db action with
    | .ok db' => some db'
    | .error _ => some db
  else none

/-! ## What a username is -/

/-- The local part passes its validator. -/
def Accepted (localUsername : String) : Prop :=
  validateClientLocalUsername localUsername = .ok localUsername

/-- The username of the client is the one of its user, and the prefix of its tenant before a local
part. -/
structure CanonicalClient (db : Database) (c : Client) : Prop where
  user : ∃ u, db.users.get c.ownerUserId = some u ∧ u.username = c.username
  tenant : ∃ t, db.tenants.get c.tenantId = some t ∧
    c.username = buildClientUsername t.clientPrefix (splitLocal c.username)
  accepted : Accepted (splitLocal c.username)

/-- Every client is canonical, names are unique, and every prefix passes its validator. -/
structure Canonical (db : Database) : Prop where
  usernames : ∀ u ∈ db.users.rows, ∀ u' ∈ db.users.rows, u.username = u'.username → u.id = u'.id
  owners : ∀ c ∈ db.clients.rows, ∀ c' ∈ db.clients.rows,
    c.ownerUserId = c'.ownerUserId → c.id = c'.id
  clients : ∀ c ∈ db.clients.rows, CanonicalClient db c
  prefixes : ∀ t ∈ db.tenants.rows, startsLower isPrefixChar t.clientPrefix = true

/-- The names that an operation would write, with the account of each; a new client has none. -/
def attempted (db : Database) : Action → List (Option Nat × String)
  | .createClient tenantId payload =>
    (db.tenants.get tenantId).toList.map fun t =>
      (none, buildClientUsername t.clientPrefix payload.localUsername)
  | .updateClient tenantId clientId payload =>
    match db.tenants.get tenantId, db.clients.get clientId, payload.localUsername with
    | some t, some c, some (some localUsername) =>
      [(some c.ownerUserId, buildClientUsername t.clientPrefix localUsername)]
    | some _, some c, _ => [(some c.ownerUserId, c.username)]
    | _, _, _ => []
  | .updatePrefix tenantId newPrefix =>
    match validateClientPrefix newPrefix with
    | .ok newPrefix =>
      (db.clients.select fun c => c.tenantId = tenantId).map fun c =>
        (some c.ownerUserId, buildClientUsername newPrefix (splitLocal c.username))
    | .error _ => []

/-- A name that the operation would write belongs to another account. -/
def Taken (db : Database) (action : Action) : Prop :=
  ∃ account name, (account, name) ∈ attempted db action ∧
    ∃ u ∈ db.users.rows, u.username = name ∧ account ≠ some u.id

def hasLocalPart (_ : Database) : Action → Bool
  | .updateClient _ _ payload => payload.localUsername ≠ some none
  | _ => true

variable {validators : Validators} {db db' : Database} {action : Action} {tenant : Tenant}
  {client : Client} {text name raised newPrefix localUsername : String} {failure : Failure}
  {u : User} {c : Client} {c' : Char} {id tenantId : Nat} {rest : Char → Bool}

namespace UsernameLemmas

/-! ## Names -/

theorem ne_underscore_of_isPrefixChar (h : isPrefixChar c' = true) : c' ≠ '_' := by
  rintro rfl
  revert h
  decide

theorem all_of_startsLower (hrest : ∀ c, isLower c = true → rest c = true)
    (h : startsLower rest text = true) : ∀ c ∈ text.toList, rest c = true := by
  unfold startsLower at h
  split at h
  · cases h
  · next first others heq =>
    obtain ⟨hfirst, hothers⟩ := Bool.and_eq_true_iff.mp h
    intro c hc
    rw [heq] at hc
    rcases List.mem_cons.mp hc with rfl | hc
    · exact hrest c hfirst
    · exact List.all_eq_true.mp hothers c hc

theorem no_underscore (h : startsLower isPrefixChar text = true) :
    ∀ c ∈ text.toList, c ≠ '_' := fun c hc =>
  ne_underscore_of_isPrefixChar
    (all_of_startsLower (fun c hlower => by simp [isPrefixChar, hlower]) h c hc)

theorem toList_build :
    (buildClientUsername newPrefix localUsername).toList =
      newPrefix.toList ++ '_' :: localUsername.toList := by
  simp [buildClientUsername, String.toList_append]

theorem splitLocal_build (h : startsLower isPrefixChar newPrefix = true) :
    splitLocal (buildClientUsername newPrefix localUsername) = localUsername := by
  have hdrop : (newPrefix.toList ++ '_' :: localUsername.toList).dropWhile (· ≠ '_') =
      '_' :: localUsername.toList := by
    rw [List.dropWhile_append_of_pos]
    · rfl
    · intro c hc
      exact decide_eq_true (no_underscore h c hc)
  unfold splitLocal
  rw [toList_build, if_pos (by simp), hdrop]
  exact String.ofList_toList

theorem build_inj {other : String} (h : startsLower isPrefixChar newPrefix = true)
    (heq : buildClientUsername newPrefix localUsername = buildClientUsername newPrefix other) :
    localUsername = other := by
  have hsplit := congrArg splitLocal heq
  rwa [splitLocal_build h, splitLocal_build h] at hsplit

theorem accepted_iff : Accepted localUsername ↔
    stripBy isSpace localUsername = localUsername ∧ localUsername ≠ "" ∧
      localUsername.length ≤ 94 ∧ startsLower isNameChar localUsername = true := by
  unfold Accepted validateClientLocalUsername
  by_cases hstrip : stripBy isSpace localUsername = localUsername
  · rw [hstrip]
    by_cases hempty : localUsername = ""
    · simp [hempty]
    · by_cases hlong : 94 < localUsername.length
      · simp only [hempty, hlong, if_true, if_false, ne_eq, not_true_eq_false]
        exact iff_of_false nofun fun h => absurd hlong (not_lt.mpr h.2.2.1)
      · have hle : localUsername.length ≤ 94 := not_lt.mp hlong
        cases hchars : startsLower isNameChar localUsername <;> simp [hempty, hlong, hchars, hle]
  · refine iff_of_false (fun h => ?_) fun h => hstrip h.1
    dsimp only at h
    split at h
    · cases h
    · rw [if_pos (Ne.symm hstrip)] at h
      cases h

theorem accepted_of_ok (h : validateClientLocalUsername text = .ok localUsername) :
    localUsername = text ∧ Accepted text := by
  have heq : localUsername = text := by
    unfold validateClientLocalUsername at h
    dsimp only at h
    split at h
    · cases h
    · split at h
      · cases h
      · next hstrip =>
        split at h
        · cases h
        · split at h
          · cases h
          · cases h
            exact (not_not.mp hstrip).symm
  subst heq
  exact ⟨rfl, h⟩

theorem prefix_of_ok (h : validateClientPrefix text = .ok newPrefix) :
    startsLower isPrefixChar newPrefix = true := by
  unfold validateClientPrefix at h
  dsimp only at h
  split at h
  · cases h
  · split at h
    · cases h
    · split at h
      · cases h
      · next hchars =>
        rw [← Except.ok.inj h]
        simpa using hchars

theorem lowerChar_of_isNameChar (h : isNameChar c' = true) : lowerChar c' = c' := by
  have hrange : 97 ≤ c'.toNat ∧ c'.toNat ≤ 122 ∨ 48 ≤ c'.toNat ∧ c'.toNat ≤ 57 ∨ c'.toNat = 95 := by
    simp only [isNameChar, isPrefixChar, isLower, Bool.or_eq_true, Bool.and_eq_true,
      decide_eq_true_eq] at h
    rcases h with (⟨hlow, hhigh⟩ | ⟨hlow, hhigh⟩) | rfl
    · exact Or.inl ⟨hlow, hhigh⟩
    · exact Or.inr (Or.inl ⟨hlow, hhigh⟩)
    · exact Or.inr (Or.inr rfl)
  have hkelvin : ¬c'.toNat = 0x212a := by omega
  have ho : ¬c'.toNat = 0xd3 := by omega
  have hu : ¬c'.toNat = 0xda := by omega
  have hupper : ¬(c'.val ≥ 'A'.val ∧ c'.val ≤ 'Z'.val) := by
    rintro ⟨hlow, hhigh⟩
    have hlow' : 65 ≤ c'.toNat := hlow
    have hhigh' : c'.toNat ≤ 90 := hhigh
    omega
  unfold lowerChar Char.toLower
  rw [if_neg hkelvin, if_neg ho, if_neg hu, dif_neg hupper]

theorem lower_of_all (h : ∀ c ∈ text.toList, isNameChar c = true) : lower text = text := by
  unfold lower
  rw [List.map_congr_left fun c hc => lowerChar_of_isNameChar (h c hc), List.map_id']
  exact String.ofList_toList

theorem lower_build ( hprefix : startsLower isPrefixChar newPrefix = true)
    (h : Accepted localUsername) :
    lower (buildClientUsername newPrefix localUsername) =
      buildClientUsername newPrefix localUsername := by
  refine lower_of_all fun c hc => ?_
  rw [toList_build] at hc
  rcases List.mem_append.mp hc with hc | hc
  · have hchar := all_of_startsLower (fun c hlower => by simp [isPrefixChar, hlower]) hprefix c hc
    simp [isNameChar, hchar]
  · rcases List.mem_cons.mp hc with rfl | hc
    · rfl
    · exact all_of_startsLower (fun c hlower => by simp [isNameChar, isPrefixChar, hlower])
        (accepted_iff.mp h).2.2.2 c hc

/-! ## Statements -/

theorem validated_eq_ok {α : Type} {result : Except InputValidationError α} {value : α} :
    validated result = .ok value ↔ result = .ok value := by
  cases result with
  | ok a => simp [validated]
  | error e => exact iff_of_false nofun nofun

theorem collision_of_validated {α : Type} {result : Except InputValidationError α}
    (h : validated result = .error failure) : failure.collision = false := by
  cases result with
  | ok a => cases h
  | error e =>
    cases h
    rfl

theorem raiseIf_eq_ok {condition : Bool} {result : Unit} :
    raiseIf condition failure = .ok result ↔ condition = false := by
  cases condition with
  | true => exact iff_of_false nofun nofun
  | false => exact iff_of_true rfl rfl

theorem raiseIf_eq_error {condition : Bool} {other : Failure} :
    raiseIf condition failure = .error other ↔ condition = true ∧ other = failure := by
  cases condition with
  | true =>
    refine ⟨fun h => ⟨rfl, (Except.error.inj h).symm⟩, ?_⟩
    rintro ⟨-, rfl⟩
    rfl
  | false => exact iff_of_false nofun fun h => Bool.false_ne_true h.1

theorem usernameExists_eq_true {excluded : Option Nat} :
    db.usernameExists name excluded = true ↔
      ∃ u ∈ db.users.rows, u.username = name ∧ excluded ≠ some u.id := by
  simp [Database.usernameExists]

theorem localUsernameExists_eq_true {excluded : Option Nat} :
    db.localUsernameExists tenantId name excluded = true ↔
      ∃ c ∈ db.clients.rows, c.tenantId = tenantId ∧ lower c.username = lower name ∧
        excluded ≠ some c.id := by
  simp [Database.localUsernameExists, and_assoc]

theorem setUsername_eq_ok (h : db.setUsername id name raised = .ok db') :
    db.usernameExists name (some id) = false ∧ db' = { db with
      users := db.users.modify id (fun u => { u with username := name }) fun _ => rfl } := by
  unfold Database.setUsername at h
  split at h
  · cases h
  · split at h
    · cases h
    · next hfree =>
      exact ⟨Bool.eq_false_iff.mpr hfree, (Except.ok.inj h).symm⟩

theorem setUsername_eq_error (h : db.setUsername id name raised = .error failure)
    (hcollision : failure.collision = true) : db.usernameExists name (some id) = true := by
  unfold Database.setUsername at h
  split at h
  · cases h
    cases hcollision
  · split at h
    · next htaken => exact htaken
    · cases h

theorem setClientUsername_eq_ok (h : db.setClientUsername tenantId id name raised = .ok db') :
    db' = { db with
      clients := db.clients.modify id (fun c => { c with username := name }) fun _ => rfl } := by
  unfold Database.setClientUsername at h
  split at h
  · cases h
  · split at h
    · cases h
    · exact (Except.ok.inj h).symm

theorem setClientUsername_eq_error (h : db.setClientUsername tenantId id name raised = .error failure)
    (hcollision : failure.collision = true) :
    db.localUsernameExists tenantId name (some id) = true := by
  unfold Database.setClientUsername at h
  split at h
  · cases h
    cases hcollision
  · split at h
    · next htaken => exact htaken
    · cases h

/-! ## The clients of a canonical database -/

theorem build_of_canonical (h : CanonicalClient db c) (ht : db.tenants.get c.tenantId = some tenant) :
    c.username = buildClientUsername tenant.clientPrefix (splitLocal c.username) := by
  obtain ⟨t, ht', hname⟩ := h.tenant
  obtain rfl : tenant = t := Option.some.inj (ht.symm.trans ht')
  exact hname

theorem lower_username (h : Canonical db) (hc : c ∈ db.clients.rows) :
    lower c.username = c.username := by
  obtain ⟨t, ht, hname⟩ := (h.clients c hc).tenant
  have hprefix := h.prefixes t (Table.get_eq_some.mp ht).1
  rw [hname]
  exact lower_build hprefix (h.clients c hc).accepted

theorem user_of_exists (h : Canonical db) {excluded : Option Nat} (hlower : lower name = name)
    (hexists : db.localUsernameExists tenantId name excluded = true) :
    ∃ c ∈ db.clients.rows, c.username = name ∧ excluded ≠ some c.id ∧
      ∃ u ∈ db.users.rows, u.username = name ∧ u.id = c.ownerUserId := by
  obtain ⟨c, hc, -, heq, hne⟩ := localUsernameExists_eq_true.mp hexists
  have hname : c.username = name := by rw [← lower_username h hc, heq, hlower]
  obtain ⟨u, hu, husername⟩ := (h.clients c hc).user
  obtain ⟨hmem, hid⟩ := Table.get_eq_some.mp hu
  exact ⟨c, hc, hname, hne, u, hmem, husername.trans hname, hid⟩

/-! ## Renaming accounts -/

/-- No two accounts have one name. -/
def Distinct (users : Table User.id) : Prop :=
  ∀ u ∈ users.rows, ∀ u' ∈ users.rows, u.username = u'.username → u.id = u'.id

theorem distinct_setUsername (h : Distinct db.users)
    (hok : db.setUsername id name raised = .ok db') : Distinct db'.users := by
  obtain ⟨hfree, rfl⟩ := setUsername_eq_ok hok
  have hother : ∀ u ∈ db.users.rows, u.username = name → u.id = id := by
    intro u hu heq
    by_contra hne
    rw [usernameExists_eq_true.mpr
      ⟨u, hu, heq, fun hsome => hne (Option.some.inj hsome).symm⟩] at hfree
    cases hfree
  intro u hu u' hu' heq
  obtain ⟨old, hold, rfl⟩ := List.mem_map.mp hu
  obtain ⟨old', hold', rfl⟩ := List.mem_map.mp hu'
  dsimp only at heq ⊢
  split at heq <;> split at heq
  · next hid hid' => rw [if_pos hid, if_pos hid', hid, hid']
  · next hid hid' => exact absurd (hother old' hold' heq.symm) hid'
  · next hid hid' => exact absurd (hother old hold heq) hid
  · next hid hid' =>
    rw [if_neg hid, if_neg hid']
    exact h old hold old' hold' heq

/-- Some accounts have new names, and each client has the name of its account. -/
structure Renamed (db db' : Database) (newName : Nat → Option String) : Prop where
  users : ∀ id, db'.users.get id =
    (db.users.get id).map fun u => { u with username := (newName id).getD u.username }
  clients : ∀ c' ∈ db'.clients.rows, ∃ c ∈ db.clients.rows, c'.id = c.id ∧
    c'.tenantId = c.tenantId ∧ c'.ownerUserId = c.ownerUserId ∧
    c'.username = (newName c.ownerUserId).getD c.username

theorem canonical_renamed {newName : Nat → Option String} (h : Canonical db)
    (hrenamed : Renamed db db' newName) (hdistinct : Distinct db'.users)
    (hnames : ∀ c ∈ db.clients.rows, ∃ t localUsername,
      db'.tenants.get c.tenantId = some t ∧ Accepted localUsername ∧
      (newName c.ownerUserId).getD c.username = buildClientUsername t.clientPrefix localUsername)
    (hprefixes : ∀ t ∈ db'.tenants.rows, startsLower isPrefixChar t.clientPrefix = true) :
    Canonical db' where
  usernames := hdistinct
  owners := fun c hc c' hc' heq => by
    obtain ⟨old, hold, hid, -, howner, -⟩ := hrenamed.clients c hc
    obtain ⟨old', hold', hid', -, howner', -⟩ := hrenamed.clients c' hc'
    rw [hid, hid']
    exact h.owners old hold old' hold' (by rw [← howner, heq, howner'])
  clients := fun c hc => by
    obtain ⟨old, hold, -, htenant, howner, hname⟩ := hrenamed.clients c hc
    obtain ⟨t, localUsername, ht, haccepted, hnew⟩ := hnames old hold
    obtain ⟨u, hu, husername⟩ := (h.clients old hold).user
    have hsplit : splitLocal c.username = localUsername := by
      rw [hname, hnew, splitLocal_build (hprefixes t (Table.get_eq_some.mp ht).1)]
    exact
      { user := ⟨_, by rw [howner, hrenamed.users, hu]; rfl, by rw [hname, ← husername]⟩
        tenant := ⟨t, htenant ▸ ht, by rw [hsplit, hname, hnew]⟩
        accepted := hsplit ▸ haccepted }
  prefixes := hprefixes

/-! ## `create_client` -/

theorem createClient_eq_ok {payload : ClientCreate}
    (h : createClient validators db tenant payload = .ok db') :
    Accepted payload.localUsername ∧ db.usernameExists
      (buildClientUsername tenant.clientPrefix payload.localUsername) none = false ∧
    ∃ fullName phone, db' = { db with
      users := db.users.insert ⟨payload.userId,
        buildClientUsername tenant.clientPrefix payload.localUsername⟩
      clients := db.clients.insert ⟨payload.clientId, tenant.id, payload.userId, fullName,
        buildClientUsername tenant.clientPrefix payload.localUsername, phone⟩ } := by
  unfold createClient at h
  obtain ⟨fullName, -, h⟩ := bind_eq_ok.mp h
  obtain ⟨localUsername, hlocal, h⟩ := bind_eq_ok.mp h
  obtain ⟨phone, -, h⟩ := bind_eq_ok.mp h
  obtain ⟨password, -, h⟩ := bind_eq_ok.mp h
  obtain ⟨-, -, h⟩ := bind_eq_ok.mp h
  obtain ⟨-, -, h⟩ := bind_eq_ok.mp h
  obtain ⟨_, hfree, h⟩ := bind_eq_ok.mp h
  obtain ⟨-, -, h⟩ := bind_eq_ok.mp h
  obtain ⟨rfl, haccepted⟩ := accepted_of_ok (validated_eq_ok.mp hlocal)
  exact ⟨haccepted, raiseIf_eq_ok.mp hfree, fullName, phone, (Except.ok.inj h).symm⟩

theorem createClient_eq_error {payload : ClientCreate}
    (h : createClient validators db tenant payload = .error failure)
    (hcollision : failure.collision = true) : Accepted payload.localUsername ∧
      (db.localUsernameExists tenant.id
        (buildClientUsername tenant.clientPrefix payload.localUsername) none = true ∨
      db.usernameExists
        (buildClientUsername tenant.clientPrefix payload.localUsername) none = true) := by
  have hnot : ∀ {α : Type} {result : Except InputValidationError α},
      validated result ≠ .error failure := by
    intro α result hresult
    rw [collision_of_validated hresult] at hcollision
    cases hcollision
  unfold createClient at h
  obtain ⟨fullName, -, h⟩ := (bind_eq_error.mp h).resolve_left hnot
  obtain ⟨localUsername, hlocal, h⟩ := (bind_eq_error.mp h).resolve_left hnot
  obtain ⟨phone, -, h⟩ := (bind_eq_error.mp h).resolve_left hnot
  obtain ⟨password, -, h⟩ := (bind_eq_error.mp h).resolve_left hnot
  obtain ⟨rfl, haccepted⟩ := accepted_of_ok (validated_eq_ok.mp hlocal)
  refine ⟨haccepted, ?_⟩
  rcases bind_eq_error.mp h with hraise | ⟨-, -, h⟩
  · exact Or.inl (raiseIf_eq_error.mp hraise).1
  rcases bind_eq_error.mp h with hraise | ⟨-, -, h⟩
  · rw [(raiseIf_eq_error.mp hraise).2] at hcollision
    cases hcollision
  rcases bind_eq_error.mp h with hraise | ⟨-, -, h⟩
  · exact Or.inr (raiseIf_eq_error.mp hraise).1
  rcases bind_eq_error.mp h with hraise | ⟨-, -, h⟩
  · rw [(raiseIf_eq_error.mp hraise).2] at hcollision
    cases hcollision
  cases h

theorem canonical_create (h : Canonical db) {payload : ClientCreate}
    (htenant : db.tenants.get tenant.id = some tenant)
    (huser : db.users.get payload.userId = none)
    (hok : createClient validators db tenant payload = .ok db') : Canonical db' := by
  obtain ⟨haccepted, hfree, fullName, phone, rfl⟩ := createClient_eq_ok hok
  have hprefix := h.prefixes tenant (Table.get_eq_some.mp htenant).1
  have hname : ∀ u ∈ db.users.rows,
      u.username ≠ buildClientUsername tenant.clientPrefix payload.localUsername := by
    intro u hu heq
    rw [usernameExists_eq_true.mpr ⟨u, hu, heq, (Option.some_ne_none _).symm⟩] at hfree
    cases hfree
  have howner : ∀ c ∈ db.clients.rows, c.ownerUserId ≠ payload.userId := by
    intro c hc heq
    obtain ⟨u, hu, -⟩ := (h.clients c hc).user
    rw [heq, huser] at hu
    cases hu
  exact
    { usernames := fun u hu u' hu' heq => by
        rcases Table.mem_insert hu with rfl | hu <;> rcases Table.mem_insert hu' with rfl | hu'
        · rfl
        · exact absurd heq.symm (hname u' hu')
        · exact absurd heq (hname u hu)
        · exact h.usernames u hu u' hu' heq
      owners := fun c hc c' hc' heq => by
        rcases Table.mem_insert hc with rfl | hc <;> rcases Table.mem_insert hc' with rfl | hc'
        · rfl
        · exact absurd heq.symm (howner c' hc')
        · exact absurd heq (howner c hc)
        · exact h.owners c hc c' hc' heq
      clients := fun c hc => by
        rcases Table.mem_insert hc with rfl | hc
        · exact
            { user := ⟨_, Table.get_insert_self huser, rfl⟩
              tenant := ⟨tenant, htenant, by rw [splitLocal_build hprefix]⟩
              accepted := by
                rw [splitLocal_build hprefix]
                exact haccepted }
        · obtain ⟨u, hu, hname⟩ := (h.clients c hc).user
          exact ⟨⟨u, Table.get_insert_of_get hu, hname⟩, (h.clients c hc).tenant,
            (h.clients c hc).accepted⟩
      prefixes := h.prefixes }

theorem taken_create (h : Canonical db) {payload : ClientCreate}
    (htenant : db.tenants.get tenantId = some tenant)
    (herror : createClient validators db tenant payload = .error failure)
    (hcollision : failure.collision = true) : Taken db (.createClient tenantId payload) := by
  obtain ⟨haccepted, hexists⟩ := createClient_eq_error herror hcollision
  have hprefix := h.prefixes tenant (Table.get_eq_some.mp htenant).1
  refine ⟨none, buildClientUsername tenant.clientPrefix payload.localUsername, ?_, ?_⟩
  · simp [attempted, htenant]
  · rcases hexists with hexists | hexists
    · obtain ⟨c, -, -, -, u, hu, hname, -⟩ :=
        user_of_exists h (lower_build hprefix haccepted) hexists
      exact ⟨u, hu, hname, (Option.some_ne_none _).symm⟩
    · obtain ⟨u, hu, hname, -⟩ := usernameExists_eq_true.mp hexists
      exact ⟨u, hu, hname, (Option.some_ne_none _).symm⟩

/-! ## `update_client` -/

def newLocal (client : Client) (payload : ClientUpdate) : String :=
  match payload.localUsername with
  | some (some localUsername) => localUsername
  | _ => splitLocal client.username

theorem validatedField_eq_ok {field result : Option (Option String)}
    (h : validatedField validateClientLocalUsername field = .ok result) :
    result = field ∧ ∀ localUsername, field = some (some localUsername) → Accepted localUsername := by
  cases field with
  | none =>
    cases h
    exact ⟨rfl, nofun⟩
  | some value =>
    cases value with
    | none =>
      cases h
      exact ⟨rfl, nofun⟩
    | some value =>
      simp only [validatedField] at h
      cases hvalue : validateClientLocalUsername value with
      | error e =>
        rw [hvalue] at h
        cases h
      | ok accepted =>
        rw [hvalue] at h
        cases h
        obtain ⟨rfl, haccepted⟩ := accepted_of_ok hvalue
        refine ⟨rfl, fun localUsername heq => ?_⟩
        cases heq
        exact haccepted

theorem collision_of_validatedField {validate : String → Except InputValidationError String}
    {field : Option (Option String)} (h : validatedField validate field = .error failure) :
    failure.collision = false := by
  cases field with
  | none => cases h
  | some value =>
    cases value with
    | none => cases h
    | some value =>
      simp only [validatedField] at h
      cases hvalue : validate value with
      | error e =>
        rw [hvalue] at h
        cases h
        rfl
      | ok accepted =>
        rw [hvalue] at h
        cases h

theorem collision_of_validatedPhone {field : Option (Option String)}
    (h : validatedPhone validators field = .error failure) : failure.collision = false := by
  cases field with
  | none => cases h
  | some phone =>
    simp only [validatedPhone] at h
    cases hphone : validators.phone phone with
    | error e =>
      rw [hphone] at h
      cases h
      rfl
    | ok accepted =>
      rw [hphone] at h
      cases h

theorem textOf_newLocal {payload : ClientUpdate} (hlocal : payload.localUsername ≠ some none) :
    payload.localUsername.getD (some (splitLocal client.username)) =
      some (newLocal client payload) := by
  unfold newLocal
  cases hpayload : payload.localUsername with
  | none => rfl
  | some value =>
    cases value with
    | none => exact absurd hpayload hlocal
    | some value => rfl

theorem updateClient_eq_ok {payload : ClientUpdate} (hlocal : payload.localUsername ≠ some none)
    (h : updateClient validators db tenant client payload = .ok db') :
    (∀ localUsername, payload.localUsername = some (some localUsername) → Accepted localUsername) ∧
    (∃ renamed, db.setUsername client.ownerUserId
      (buildClientUsername tenant.clientPrefix (newLocal client payload))
      "client_update_failed" = .ok renamed ∧ db'.users = renamed.users) ∧
    db'.tenants = db.tenants ∧
    ∃ f : Client → Client, (∀ c, (f c).tenantId = c.tenantId ∧
      (f c).ownerUserId = c.ownerUserId ∧
      (f c).username = buildClientUsername tenant.clientPrefix (newLocal client payload)) ∧
      db'.clients.get client.id = (db.clients.get client.id).map f ∧
      ∀ id, id ≠ client.id → db'.clients.get id = db.clients.get id := by
  unfold updateClient at h
  obtain ⟨fullName, -, h⟩ := bind_eq_ok.mp h
  obtain ⟨localUsername, hvalid, h⟩ := bind_eq_ok.mp h
  obtain ⟨rfl, haccepted⟩ := validatedField_eq_ok hvalid
  obtain ⟨phone, -, h⟩ := bind_eq_ok.mp h
  simp only [textOf_newLocal hlocal, textOf, Option.getD_some] at h
  obtain ⟨-, -, h⟩ := bind_eq_ok.mp h
  obtain ⟨-, -, h⟩ := bind_eq_ok.mp h
  obtain ⟨-, -, h⟩ := bind_eq_ok.mp h
  obtain ⟨renamed, hrenamed, h⟩ := bind_eq_ok.mp h
  obtain ⟨-, -, h⟩ := bind_eq_ok.mp h
  obtain ⟨updated, hupdated, h⟩ := bind_eq_ok.mp h
  obtain ⟨-, heq⟩ := setUsername_eq_ok hrenamed
  obtain rfl := setClientUsername_eq_ok hupdated
  cases h
  refine ⟨haccepted, ⟨renamed, hrenamed, rfl⟩, by rw [heq], fun c =>
    { c with
      username := buildClientUsername tenant.clientPrefix (newLocal client payload)
      fullName := (fullName.getD (some c.fullName)).getD c.fullName
      phone := phone.getD c.phone }, fun c => ⟨rfl, rfl, rfl⟩, ?_, fun id hid => ?_⟩
  · simp only [Table.get_modify_self, Option.map_map, heq]
    rfl
  · simp only [Table.get_modify_of_ne hid, heq]

theorem updateClient_eq_error {payload : ClientUpdate} (hlocal : payload.localUsername ≠ some none)
    (h : updateClient validators db tenant client payload = .error failure)
    (hcollision : failure.collision = true) :
    (∀ localUsername, payload.localUsername = some (some localUsername) → Accepted localUsername) ∧
    (db.localUsernameExists tenant.id
      (buildClientUsername tenant.clientPrefix (newLocal client payload)) (some client.id) = true ∨
    db.usernameExists (buildClientUsername tenant.clientPrefix (newLocal client payload))
      (some client.ownerUserId) = true) := by
  unfold updateClient at h
  rcases bind_eq_error.mp h with hvalid | ⟨fullName, -, h⟩
  · rw [collision_of_validatedField hvalid] at hcollision
    cases hcollision
  rcases bind_eq_error.mp h with hvalid | ⟨localUsername, hvalid, h⟩
  · rw [collision_of_validatedField hvalid] at hcollision
    cases hcollision
  obtain ⟨rfl, haccepted⟩ := validatedField_eq_ok hvalid
  refine ⟨haccepted, ?_⟩
  rcases bind_eq_error.mp h with hvalid | ⟨phone, -, h⟩
  · rw [collision_of_validatedPhone hvalid] at hcollision
    cases hcollision
  simp only [textOf_newLocal hlocal, textOf, Option.getD_some] at h
  rcases bind_eq_error.mp h with hraise | ⟨-, -, h⟩
  · exact Or.inl (Bool.and_eq_true_iff.mp (raiseIf_eq_error.mp hraise).1).2
  rcases bind_eq_error.mp h with hraise | ⟨-, -, h⟩
  · rw [(raiseIf_eq_error.mp hraise).2] at hcollision
    cases hcollision
  rcases bind_eq_error.mp h with hraise | ⟨-, -, h⟩
  · exact Or.inr (Bool.and_eq_true_iff.mp (raiseIf_eq_error.mp hraise).1).2
  rcases bind_eq_error.mp h with hrename | ⟨renamed, hrenamed, h⟩
  · exact Or.inr (setUsername_eq_error hrename hcollision)
  obtain ⟨-, rfl⟩ := setUsername_eq_ok hrenamed
  rcases bind_eq_error.mp h with hraise | ⟨-, -, h⟩
  · rw [(raiseIf_eq_error.mp hraise).2] at hcollision
    cases hcollision
  rcases bind_eq_error.mp h with hupdate | ⟨updated, -, h⟩
  · have hexists := setClientUsername_eq_error hupdate hcollision
    exact Or.inl hexists
  · cases h

def updatedName (tenant : Tenant) (client : Client) (payload : ClientUpdate) (id : Nat) :
    Option String :=
  if id = client.ownerUserId then
    some (buildClientUsername tenant.clientPrefix (newLocal client payload))
  else none

theorem renamed_update (h : Canonical db) {payload : ClientUpdate}
    (hlocal : payload.localUsername ≠ some none) (hclient : db.clients.get client.id = some client)
    (hok : updateClient validators db tenant client payload = .ok db') :
    Renamed db db' (updatedName tenant client payload) := by
  obtain ⟨-, ⟨renamed, hrenamed, husers⟩, -, f, hf, hself, hother⟩ := updateClient_eq_ok hlocal hok
  obtain ⟨-, rfl⟩ := setUsername_eq_ok hrenamed
  refine ⟨fun id => ?_, fun c' hc' => ?_⟩
  · rw [husers]
    by_cases hid : id = client.ownerUserId
    · rw [hid, Table.get_modify_self, updatedName, if_pos rfl]
      rfl
    · rw [Table.get_modify_of_ne hid, updatedName, if_neg hid]
      exact Option.map_id'.symm
  · by_cases hid : c'.id = client.id
    · have hget := Table.get_of_mem hc'
      rw [hid, hself, hclient] at hget
      obtain rfl := Option.some.inj hget
      refine ⟨client, (Table.get_eq_some.mp hclient).1, hid, (hf client).1, (hf client).2.1, ?_⟩
      rw [(hf client).2.2, updatedName, if_pos rfl]
      rfl
    · have hget := Table.get_of_mem hc'
      rw [hother _ hid] at hget
      have hmem := (Table.get_eq_some.mp hget).1
      have howner : c'.ownerUserId ≠ client.ownerUserId := fun heq =>
        hid (h.owners c' hmem client (Table.get_eq_some.mp hclient).1 heq)
      refine ⟨c', hmem, rfl, rfl, rfl, ?_⟩
      rw [updatedName, if_neg howner]
      rfl

theorem accepted_newLocal {payload : ClientUpdate} (h : Accepted (splitLocal client.username))
    (haccepted : ∀ localUsername, payload.localUsername = some (some localUsername) →
      Accepted localUsername) : Accepted (newLocal client payload) := by
  unfold newLocal
  split
  · next localUsername hpayload => exact haccepted localUsername hpayload
  · exact h

theorem canonical_update (h : Canonical db) {payload : ClientUpdate}
    (hlocal : payload.localUsername ≠ some none) (htenant : db.tenants.get client.tenantId = some tenant)
    (hclient : db.clients.get client.id = some client)
    (hok : updateClient validators db tenant client payload = .ok db') : Canonical db' := by
  obtain ⟨haccepted, ⟨renamed, hrenamed, husers⟩, htenants, -⟩ := updateClient_eq_ok hlocal hok
  have hmem := (Table.get_eq_some.mp hclient).1
  refine canonical_renamed h (renamed_update h hlocal hclient hok)
    (husers ▸ distinct_setUsername h.usernames hrenamed) (fun c hc => ?_) (htenants ▸ h.prefixes)
  rw [htenants]
  by_cases howner : c.ownerUserId = client.ownerUserId
  · obtain rfl : c = client := List.inj_on_of_nodup_map db.clients.nodup hc hmem
      (h.owners c hc client hmem howner)
    refine ⟨tenant, newLocal c payload, htenant,
      accepted_newLocal (h.clients c hc).accepted haccepted, ?_⟩
    rw [updatedName, if_pos rfl]
    rfl
  · obtain ⟨t, ht, hname⟩ := (h.clients c hc).tenant
    refine ⟨t, splitLocal c.username, ht, (h.clients c hc).accepted, ?_⟩
    rw [updatedName, if_neg howner]
    exact hname

theorem attempted_update (h : Canonical db) {payload : ClientUpdate}
    (htenant : db.tenants.get client.tenantId = some tenant)
    (hclient : db.clients.get client.id = some client) :
    (some client.ownerUserId, buildClientUsername tenant.clientPrefix (newLocal client payload)) ∈
      attempted db (.updateClient client.tenantId client.id payload) := by
  have hname := build_of_canonical (h.clients client (Table.get_eq_some.mp hclient).1) htenant
  simp only [attempted, newLocal, htenant, hclient]
  cases payload.localUsername with
  | none => simp [← hname]
  | some value =>
    cases value with
    | none => simp [← hname]
    | some value => simp

theorem taken_update (h : Canonical db) {payload : ClientUpdate}
    (hlocal : payload.localUsername ≠ some none)
    (htenant : db.tenants.get client.tenantId = some tenant)
    (hclient : db.clients.get client.id = some client)
    (herror : updateClient validators db tenant client payload = .error failure)
    (hcollision : failure.collision = true) :
    Taken db (.updateClient client.tenantId client.id payload) := by
  obtain ⟨haccepted, hexists⟩ := updateClient_eq_error hlocal herror hcollision
  have hmem := (Table.get_eq_some.mp hclient).1
  have hprefix := h.prefixes tenant (Table.get_eq_some.mp htenant).1
  refine ⟨_, _, attempted_update h htenant hclient, ?_⟩
  rcases hexists with hexists | hexists
  · obtain ⟨c, hc, -, hne, u, hu, hname, howner⟩ := user_of_exists h
      (lower_build hprefix (accepted_newLocal (h.clients client hmem).accepted haccepted)) hexists
    refine ⟨u, hu, hname, fun heq => hne ?_⟩
    rw [h.owners client hmem c hc ((Option.some.inj heq).trans howner)]
  · obtain ⟨u, hu, hname, hne⟩ := usernameExists_eq_true.mp hexists
    exact ⟨u, hu, hname, hne⟩

/-! ## `sync_client_usernames_for_tenant` -/

def underPrefix (newPrefix : String) (c : Client) : String :=
  buildClientUsername newPrefix (splitLocal c.username)

theorem renameUsers_eq_ok {clients : List Client}
    (h : clients.foldlM (fun db c =>
      db.setUsername c.ownerUserId (underPrefix newPrefix c) raised) db = .ok db') :
    db' = { db with
      users := clients.foldl (fun users c => users.modify c.ownerUserId
        (fun u => { u with username := underPrefix newPrefix c }) fun _ => rfl) db.users } ∧
    (Distinct db.users → Distinct db'.users) := by
  induction clients generalizing db with
  | nil =>
    cases h
    exact ⟨rfl, id⟩
  | cons c rest ih =>
    rw [List.foldlM_cons] at h
    obtain ⟨renamed, hfirst, hrest⟩ := bind_eq_ok.mp h
    obtain ⟨heq, hdistinct⟩ := ih hrest
    refine ⟨?_, fun h => hdistinct (distinct_setUsername h hfirst)⟩
    obtain ⟨-, rfl⟩ := setUsername_eq_ok hfirst
    exact heq

theorem renameClients_eq_ok {clients : List Client}
    (h : clients.foldlM (fun db c =>
      db.setClientUsername tenantId c.id (underPrefix newPrefix c) raised) db = .ok db') :
    db' = { db with
      clients := clients.foldl (fun clients c => clients.modify c.id
        (fun row => { row with username := underPrefix newPrefix c }) fun _ => rfl) db.clients } := by
  induction clients generalizing db with
  | nil =>
    cases h
    rfl
  | cons c rest ih =>
    rw [List.foldlM_cons] at h
    obtain ⟨renamed, hfirst, hrest⟩ := bind_eq_ok.mp h
    have heq := ih hrest
    obtain rfl := setClientUsername_eq_ok hfirst
    exact heq

theorem ids_distinct {p : Client → Bool} : (db.clients.select p).Pairwise fun a b => a.id ≠ b.id :=
  (List.pairwise_map.mp db.clients.nodup).sublist List.filter_sublist

theorem owners_distinct (h : Canonical db) {p : Client → Bool} :
    (db.clients.select p).Pairwise fun a b => a.ownerUserId ≠ b.ownerUserId :=
  ids_distinct.imp_of_mem fun ha hb hne heq =>
    hne (h.owners _ (List.mem_of_mem_filter ha) _ (List.mem_of_mem_filter hb) heq)

theorem eq_of_underPrefix (h : Canonical db) {c₁ c₂ : Client} (h₁ : c₁ ∈ db.clients.rows)
    (h₂ : c₂ ∈ db.clients.rows) (htenant : c₁.tenantId = c₂.tenantId)
    ( hprefix : startsLower isPrefixChar newPrefix = true)
    (heq : underPrefix newPrefix c₁ = underPrefix newPrefix c₂) : c₁ = c₂ := by
  have hlocal := build_inj hprefix heq
  obtain ⟨t, ht, hname₁⟩ := (h.clients c₁ h₁).tenant
  have hname₂ := build_of_canonical (h.clients c₂ h₂) (htenant ▸ ht)
  have hname : c₁.username = c₂.username := by rw [hname₁, hname₂, hlocal]
  obtain ⟨u₁, hu₁, husername₁⟩ := (h.clients c₁ h₁).user
  obtain ⟨u₂, hu₂, husername₂⟩ := (h.clients c₂ h₂).user
  obtain ⟨hmem₁, hid₁⟩ := Table.get_eq_some.mp hu₁
  obtain ⟨hmem₂, hid₂⟩ := Table.get_eq_some.mp hu₂
  have hid := h.usernames u₁ hmem₁ u₂ hmem₂ (by rw [husername₁, husername₂, hname])
  exact List.inj_on_of_nodup_map db.clients.nodup h₁ h₂
    (h.owners c₁ h₁ c₂ h₂ (by rw [← hid₁, ← hid₂, hid]))

def syncedName (db : Database) (tenantId : Nat) (newPrefix : String) (id : Nat) : Option String :=
  ((db.clients.select fun c => c.tenantId = tenantId).find? fun c => c.ownerUserId = id).map
    (underPrefix newPrefix)

theorem syncedName_of_mem (h : Canonical db) (hc : c ∈ db.clients.rows) :
    syncedName db tenantId newPrefix c.ownerUserId =
      if c.tenantId = tenantId then some (underPrefix newPrefix c) else none := by
  unfold syncedName
  split
  · next htenant =>
    cases hfind : (db.clients.select fun c => c.tenantId = tenantId).find?
        fun other => other.ownerUserId = c.ownerUserId with
    | none =>
      have hnone := List.find?_eq_none.mp hfind c (List.mem_filter.mpr ⟨hc, by simpa using htenant⟩)
      simp at hnone
    | some other =>
      have howner := List.find?_some hfind
      have hmem := List.mem_of_mem_filter (List.mem_of_find?_eq_some hfind)
      obtain rfl : other = c := List.inj_on_of_nodup_map db.clients.nodup hmem hc
        (h.owners other hmem c hc (by simpa using howner))
      rfl
  · next htenant =>
    cases hfind : (db.clients.select fun c => c.tenantId = tenantId).find?
        fun other => other.ownerUserId = c.ownerUserId with
    | none => rfl
    | some other =>
      have howner := List.find?_some hfind
      obtain ⟨hmem, hother⟩ := List.mem_filter.mp (List.mem_of_find?_eq_some hfind)
      obtain rfl : other = c := List.inj_on_of_nodup_map db.clients.nodup hmem hc
        (h.owners other hmem c hc (by simpa using howner))
      exact absurd (by simpa using hother) htenant

theorem renamed_sync (h : Canonical db)
    (hok : syncClientUsernames db tenantId newPrefix raised = .ok db') :
    Renamed db db' (syncedName db tenantId newPrefix) ∧ Distinct db'.users ∧
      db'.tenants = db.tenants := by
  unfold syncClientUsernames at hok
  obtain ⟨renamed, husers, hclients⟩ := bind_eq_ok.mp hok
  obtain ⟨hrenamed, hdistinct⟩ := renameUsers_eq_ok husers
  obtain rfl := renameClients_eq_ok hclients
  refine ⟨⟨fun id => ?_, fun c' hc' => ?_⟩, hdistinct h.usernames, by rw [hrenamed]⟩
  · rw [hrenamed]
    dsimp only
    cases hfind : (db.clients.select fun c => c.tenantId = tenantId).find?
        fun c => c.ownerUserId = id with
    | none =>
      rw [get_foldl_modify_of_notMem fun c hc => by
        simpa using List.find?_eq_none.mp hfind c hc]
      rw [syncedName, hfind]
      exact Option.map_id'.symm
    | some c =>
      obtain rfl : c.ownerUserId = id := by simpa using List.find?_some hfind
      rw [get_foldl_modify_of_mem (List.mem_of_find?_eq_some hfind) (owners_distinct h)]
      rw [syncedName, hfind]
      rfl
  · have hget := Table.get_of_mem hc'
    rw [hrenamed] at hget
    dsimp only at hget
    by_cases hmem : ∃ c ∈ db.clients.select fun c => c.tenantId = tenantId, c.id = c'.id
    · obtain ⟨c, hc, hid⟩ := hmem
      obtain ⟨hrow, htenant⟩ := List.mem_filter.mp hc
      rw [← hid, get_foldl_modify_of_mem hc ids_distinct, Table.get_of_mem hrow] at hget
      obtain rfl := Option.some.inj hget
      refine ⟨c, hrow, rfl, rfl, rfl, ?_⟩
      rw [syncedName_of_mem h hrow, if_pos (by simpa using htenant)]
      rfl
    · rw [get_foldl_modify_of_notMem fun c hc heq => hmem ⟨c, hc, heq⟩] at hget
      have hrow := (Table.get_eq_some.mp hget).1
      refine ⟨c', hrow, rfl, rfl, rfl, ?_⟩
      rw [syncedName_of_mem h hrow, if_neg fun htenant =>
        hmem ⟨c', List.mem_filter.mpr ⟨hrow, by simpa using htenant⟩, rfl⟩]
      rfl

theorem collided_of_renameUsers (h : Canonical db)
    ( hprefix : startsLower isPrefixChar newPrefix = true) {done rest : List Client}
    (hclients : (db.clients.select fun c => c.tenantId = tenantId) = done ++ c :: rest)
    (hdone : done.foldlM (fun db c =>
      db.setUsername c.ownerUserId (underPrefix newPrefix c) raised) db = .ok db')
    (hexists : db'.usernameExists (underPrefix newPrefix c) (some c.ownerUserId) = true) :
    ∃ u ∈ db.users.rows, u.username = underPrefix newPrefix c ∧ some c.ownerUserId ≠ some u.id := by
  have hmem : ∀ other, other ∈ done ++ c :: rest →
      other ∈ db.clients.rows ∧ other.tenantId = tenantId := by
    intro other hother
    rw [← hclients] at hother
    obtain ⟨hrow, htenant⟩ := List.mem_filter.mp hother
    exact ⟨hrow, by simpa using htenant⟩
  obtain ⟨hrow, htenant⟩ := hmem c (List.mem_append_right _ List.mem_cons_self)
  obtain ⟨u, hu, hname, hne⟩ := usernameExists_eq_true.mp hexists
  have hget := Table.get_of_mem hu
  rw [(renameUsers_eq_ok hdone).1] at hget
  dsimp only at hget
  by_cases hrenamed : ∃ other ∈ done, other.ownerUserId = u.id
  · -- the account has its new name already, which only one client of the tenant gets
    obtain ⟨other, hother, howner⟩ := hrenamed
    have hdistinct := (List.pairwise_append.mp (hclients ▸ owners_distinct h)).1
    rw [← howner, get_foldl_modify_of_mem hother hdistinct] at hget
    obtain ⟨old, -, rfl⟩ := Option.map_eq_some_iff.mp hget
    obtain ⟨hotherRow, hotherTenant⟩ := hmem other (List.mem_append_left _ hother)
    obtain rfl := eq_of_underPrefix h hotherRow hrow (hotherTenant.trans htenant.symm) hprefix hname
    exact absurd (congrArg some howner) hne
  · rw [get_foldl_modify_of_notMem fun other hother howner =>
      hrenamed ⟨other, hother, howner⟩] at hget
    exact ⟨u, (Table.get_eq_some.mp hget).1, hname, hne⟩

theorem collided_of_renameClients (h : Canonical db)
    ( hprefix : startsLower isPrefixChar newPrefix = true) {renamed : Database}
    {done rest : List Client} (hsame : renamed.clients = db.clients)
    (hclients : (db.clients.select fun c => c.tenantId = tenantId) = done ++ c :: rest)
    (hdone : done.foldlM (fun db c =>
      db.setClientUsername tenantId c.id (underPrefix newPrefix c) raised) renamed = .ok db')
    (hexists : db'.localUsernameExists tenantId (underPrefix newPrefix c) (some c.id) = true) :
    ∃ u ∈ db.users.rows, u.username = underPrefix newPrefix c ∧ some c.ownerUserId ≠ some u.id := by
  have hmem : ∀ other, other ∈ done ++ c :: rest →
      other ∈ db.clients.rows ∧ other.tenantId = tenantId := by
    intro other hother
    rw [← hclients] at hother
    obtain ⟨hrow, htenant⟩ := List.mem_filter.mp hother
    exact ⟨hrow, by simpa using htenant⟩
  have hlower : ∀ other ∈ db.clients.rows,
      lower (underPrefix newPrefix other) = underPrefix newPrefix other := fun other hother =>
    lower_build hprefix (h.clients other hother).accepted
  obtain ⟨hrow, htenant⟩ := hmem c (List.mem_append_right _ List.mem_cons_self)
  obtain ⟨found, hfound, -, heq, hne⟩ := localUsernameExists_eq_true.mp hexists
  rw [hlower c hrow] at heq
  have hget := Table.get_of_mem hfound
  rw [renameClients_eq_ok hdone] at hget
  dsimp only at hget
  rw [hsame] at hget
  by_cases hrenamed : ∃ other ∈ done, other.id = found.id
  · obtain ⟨other, hother, hid⟩ := hrenamed
    have hdistinct := (List.pairwise_append.mp (hclients ▸ @ids_distinct db _)).1
    rw [← hid, get_foldl_modify_of_mem hother hdistinct] at hget
    obtain ⟨old, -, rfl⟩ := Option.map_eq_some_iff.mp hget
    obtain ⟨hotherRow, hotherTenant⟩ := hmem other (List.mem_append_left _ hother)
    rw [hlower other hotherRow] at heq
    obtain rfl := eq_of_underPrefix h hotherRow hrow (hotherTenant.trans htenant.symm) hprefix heq
    exact absurd (congrArg some hid) hne
  · rw [get_foldl_modify_of_notMem fun other hother hid => hrenamed ⟨other, hother, hid⟩] at hget
    have hfoundRow := (Table.get_eq_some.mp hget).1
    rw [lower_username h hfoundRow] at heq
    obtain ⟨u, hu, husername⟩ := (h.clients found hfoundRow).user
    obtain ⟨huser, hid⟩ := Table.get_eq_some.mp hu
    refine ⟨u, huser, husername.trans heq, fun howner => hne ?_⟩
    rw [h.owners c hrow found hfoundRow ((Option.some.inj howner).trans hid)]

theorem collided_of_sync (h : Canonical db) ( hprefix : startsLower isPrefixChar newPrefix = true)
    (herror : syncClientUsernames db tenantId newPrefix raised = .error failure)
    (hcollision : failure.collision = true) :
    ∃ c ∈ db.clients.select fun c => c.tenantId = tenantId,
      ∃ u ∈ db.users.rows, u.username = underPrefix newPrefix c ∧
        some c.ownerUserId ≠ some u.id := by
  unfold syncClientUsernames at herror
  rcases bind_eq_error.mp herror with husers | ⟨renamed, husers, hclients⟩
  · obtain ⟨done, c, rest, db', heq, hdone, hlast⟩ := foldlM_eq_error husers
    have hexists := setUsername_eq_error hlast hcollision
    exact ⟨c, heq ▸ List.mem_append_right _ List.mem_cons_self,
      collided_of_renameUsers h hprefix heq hdone hexists⟩
  · obtain ⟨done, c, rest, db', heq, hdone, hlast⟩ := foldlM_eq_error hclients
    have hexists := setClientUsername_eq_error hlast hcollision
    have hsame : renamed.clients = db.clients := by rw [(renameUsers_eq_ok husers).1]
    exact ⟨c, heq ▸ List.mem_append_right _ List.mem_cons_self,
      collided_of_renameClients h hprefix hsame heq hdone hexists⟩

/-! ## A change of the prefix -/

theorem updatePrefix_eq_ok (h : updatePrefix db tenant text = .ok db') :
    ∃ newPrefix, validateClientPrefix text = .ok newPrefix ∧
      (newPrefix = tenant.clientPrefix ∧ db' = db ∨ newPrefix ≠ tenant.clientPrefix ∧
        ∃ synced raised, syncClientUsernames db tenant.id newPrefix raised = .ok synced ∧
          db' = { synced with
            tenants := synced.tenants.modify tenant.id
              (fun t => { t with clientPrefix := newPrefix }) fun _ => rfl }) := by
  unfold updatePrefix at h
  obtain ⟨newPrefix, hprefix, h⟩ := bind_eq_ok.mp h
  refine ⟨newPrefix, validated_eq_ok.mp hprefix, ?_⟩
  split at h
  · next heq => exact Or.inl ⟨heq, (Except.ok.inj h).symm⟩
  · next hne =>
    obtain ⟨-, -, h⟩ := bind_eq_ok.mp h
    obtain ⟨synced, hsync, h⟩ := bind_eq_ok.mp h
    exact Or.inr ⟨hne, synced, _, hsync, (Except.ok.inj h).symm⟩

theorem updatePrefix_eq_error (h : updatePrefix db tenant text = .error failure)
    (hcollision : failure.collision = true) :
    ∃ newPrefix raised, validateClientPrefix text = .ok newPrefix ∧
      syncClientUsernames db tenant.id newPrefix raised = .error failure := by
  unfold updatePrefix at h
  rcases bind_eq_error.mp h with hvalid | ⟨newPrefix, hprefix, h⟩
  · rw [collision_of_validated hvalid] at hcollision
    cases hcollision
  refine ⟨newPrefix, "No se pudo actualizar el prefijo de cliente", validated_eq_ok.mp hprefix, ?_⟩
  split at h
  · cases h
  · rcases bind_eq_error.mp h with hraise | ⟨-, -, h⟩
    · rw [(raiseIf_eq_error.mp hraise).2] at hcollision
      cases hcollision
    rcases bind_eq_error.mp h with hsync | ⟨synced, -, h⟩
    · exact hsync
    · cases h

theorem canonical_updatePrefix (h : Canonical db)
    (htenant : db.tenants.get tenant.id = some tenant)
    (hok : updatePrefix db tenant text = .ok db') : Canonical db' := by
  obtain ⟨newPrefix, hprefix, ⟨-, rfl⟩ | ⟨-, synced, raised, hsync, rfl⟩⟩ := updatePrefix_eq_ok hok
  · exact h
  obtain ⟨hrenamed, hdistinct, htenants⟩ := renamed_sync h hsync
  refine canonical_renamed h ⟨hrenamed.users, hrenamed.clients⟩ hdistinct ?_ ?_
  · intro c hc
    rw [syncedName_of_mem h hc]
    dsimp only
    rw [htenants]
    split
    · next heq =>
      refine ⟨{ tenant with clientPrefix := newPrefix }, splitLocal c.username, ?_,
        (h.clients c hc).accepted, rfl⟩
      rw [heq, Table.get_modify_self, htenant]
      rfl
    · next hne =>
      obtain ⟨t, ht, hname⟩ := (h.clients c hc).tenant
      exact ⟨t, splitLocal c.username, by rwa [Table.get_modify_of_ne hne],
        (h.clients c hc).accepted, hname⟩
  · intro t ht
    obtain ⟨old, hold, rfl⟩ := List.mem_map.mp ht
    rw [htenants] at hold
    dsimp only
    split
    · exact prefix_of_ok hprefix
    · exact h.prefixes old hold

theorem keeps_local (h : Canonical db) (hok : updatePrefix db tenant text = .ok db') :
    ∀ c' ∈ db'.clients.rows, ∃ c ∈ db.clients.rows, c'.id = c.id ∧
      splitLocal c'.username = splitLocal c.username := by
  intro c' hc'
  obtain ⟨newPrefix, hprefix, ⟨-, rfl⟩ | ⟨-, synced, raised, hsync, rfl⟩⟩ := updatePrefix_eq_ok hok
  · exact ⟨c', hc', rfl, rfl⟩
  obtain ⟨hrenamed, -, -⟩ := renamed_sync h hsync
  obtain ⟨c, hc, hid, -, -, hname⟩ := hrenamed.clients c' hc'
  refine ⟨c, hc, hid, ?_⟩
  rw [hname, syncedName_of_mem h hc]
  split
  · exact splitLocal_build (prefix_of_ok hprefix)
  · rfl

theorem taken_updatePrefix (h : Canonical db)
    (herror : updatePrefix db tenant text = .error failure) (hcollision : failure.collision = true) :
    Taken db (.updatePrefix tenant.id text) := by
  obtain ⟨newPrefix, raised, hprefix, hsync⟩ := updatePrefix_eq_error herror hcollision
  obtain ⟨c, hc, u, hu, hname, hne⟩ := collided_of_sync h (prefix_of_ok hprefix) hsync hcollision
  refine ⟨some c.ownerUserId, underPrefix newPrefix c, ?_, u, hu, hname, hne⟩
  unfold attempted
  simp only [ hprefix]
  exact List.mem_map.mpr ⟨c, hc, rfl⟩

/-! ## Steps -/

theorem canonical_perform (h : Canonical db) (hfresh : action.fresh db = true)
    (hlocal : hasLocalPart db action = true)
    (hok : perform validators db action = .ok db') : Canonical db' := by
  cases action with
  | createClient tenantId payload =>
    simp only [perform] at hok
    split at hok
    · next tenant htenant =>
      have huser := (Bool.and_eq_true_iff.mp hfresh).1
      exact canonical_create h (by rwa [Table.key_of_get htenant])
        (Option.isNone_iff_eq_none.mp huser) hok
    · cases hok
      exact h
  | updateClient tenantId clientId payload =>
    simp only [perform] at hok
    split at hok
    · next tenant client htenant hclient =>
      split at hok
      · next heq =>
        subst heq
        exact canonical_update h (by simpa [hasLocalPart] using hlocal) htenant
          (by rwa [Table.key_of_get hclient]) hok
      · cases hok
        exact h
    · cases hok
      exact h
  | updatePrefix tenantId newPrefix =>
    simp only [perform] at hok
    split at hok
    · next tenant htenant => exact canonical_updatePrefix h (by rwa [Table.key_of_get htenant]) hok
    · cases hok
      exact h

theorem taken_perform (h : Canonical db) (hlocal : hasLocalPart db action = true)
    (herror : perform validators db action = .error failure)
    (hcollision : failure.collision = true) : Taken db action := by
  cases action with
  | createClient tenantId payload =>
    simp only [perform] at herror
    split at herror
    · next tenant htenant => exact taken_create h htenant herror hcollision
    · cases herror
  | updateClient tenantId clientId payload =>
    simp only [perform] at herror
    split at herror
    · next tenant client htenant hclient =>
      split at herror
      · next heq =>
        subst heq
        have hid := Table.key_of_get hclient
        rw [← hid] at hclient ⊢
        exact taken_update h (by simpa [hasLocalPart] using hlocal) htenant hclient herror hcollision
      · cases herror
    · cases herror
  | updatePrefix tenantId newPrefix =>
    simp only [perform] at herror
    split at herror
    · next tenant htenant =>
      have hid := Table.key_of_get htenant
      rw [← hid]
      exact taken_updatePrefix h herror hcollision
    · cases herror

theorem canonical_step (h : Canonical db) (hlocal : hasLocalPart db action = true)
    (hstep : step validators db action = some db') : Canonical db' := by
  unfold step at hstep
  split at hstep
  · next hfresh =>
    split at hstep
    · next updated hok =>
      cases hstep
      exact canonical_perform h hfresh hlocal hok
    · cases hstep
      exact h
  · cases hstep

end UsernameLemmas

open UsernameLemmas

/-- Every username is canonical while no update has a null local part. -/
theorem canonical_of_reaches {db₀ : Database} (h₀ : Canonical db₀)
    (h : Reaches (step validators) (fun db a => hasLocalPart db a = true) db₀ db) :
    Canonical db :=
  h.invariant h₀ fun _ _ _ hcanonical hlocal hstep => canonical_step hcanonical hlocal hstep

/-- While no update has a null local part, every username is canonical, a change of the prefix
keeps every local part, and an operation fails on a collision only if another account has a name
that it would write. -/
theorem usernames_of_reaches (validators : Validators) {db₀ : Database} (h₀ : Canonical db₀)
    {db : Database}
    (h : Reaches (step validators) (fun db a => hasLocalPart db a = true) db₀ db) :
    Canonical db ∧ ∀ action, hasLocalPart db action = true →
      (∀ failure, perform validators db action = .error failure → failure.collision = true →
        Taken db action) ∧
      ∀ tenantId newPrefix db', action = .updatePrefix tenantId newPrefix →
        perform validators db action = .ok db' →
        ∀ c' ∈ db'.clients.rows, ∃ c ∈ db.clients.rows, c'.id = c.id ∧
          splitLocal c'.username = splitLocal c.username := by
  have hcanonical := canonical_of_reaches h₀ h
  refine ⟨hcanonical, fun action hlocal => ⟨fun failure herror hcollision =>
    taken_perform hcanonical hlocal herror hcollision, ?_⟩⟩
  rintro tenantId newPrefix db' rfl hok
  simp only [perform] at hok
  split at hok
  · next tenant htenant => exact keeps_local hcanonical hok
  · cases hok
    exact fun c' hc' => ⟨c', hc', rfl, rfl⟩

/-! ## A run -/

def exValidators : Validators := ⟨.ok, .ok, .ok⟩

def exDb : Database where
  users := ⟨[⟨1, "ab_juan"⟩], by decide⟩
  clients := ⟨[⟨1, 1, 1, "Juan", "ab_juan", none⟩], by decide⟩
  tenants := ⟨[⟨1, "ab"⟩], by decide⟩

def exActions : List Action :=
  [.createClient 1 ⟨2, 2, "Ana", "ana_b", none, "secret"⟩,
   .updatePrefix 1 " CD ",
   .updateClient 1 1 ⟨none, some (some "none"), none⟩]

theorem canonical_exDb : Canonical exDb where
  usernames := by decide
  owners := by decide
  clients := by
    intro c hc
    obtain rfl := List.mem_singleton.mp hc
    exact
      { user := ⟨⟨1, "ab_juan"⟩, by decide, rfl⟩
        tenant := ⟨⟨1, "ab"⟩, by decide, by decide +kernel⟩
        accepted := by unfold Accepted; decide +kernel }
  prefixes := by decide +kernel

/-- After the actions the two clients are canonical. -/
theorem exDb_canonical : ∃ db, Reaches (step exValidators) (fun db a => hasLocalPart db a = true)
    exDb db ∧ db.users.rows.map User.username = ["cd_ana_b", "cd_none"] ∧ Canonical db := by
  have hrun : (execWhere (step exValidators) hasLocalPart exDb exActions).any
      (fun db => db.users.rows.map User.username = ["cd_ana_b", "cd_none"]) = true := by
    decide +kernel
  obtain ⟨db, hreaches, hnames⟩ := exists_of_execWhere hrun
  exact ⟨db, hreaches, of_decide_eq_true hnames,
    (usernames_of_reaches exValidators canonical_exDb hreaches).1⟩

/-- The tenant of `exDb` after an update with a null local part. -/
def exNulled : Database where
  users := ⟨[⟨1, "ab_None"⟩], by decide⟩
  clients := ⟨[⟨1, 1, 1, "Juan", "ab_None", none⟩], by decide⟩
  tenants := ⟨[⟨1, "ab"⟩], by decide⟩

theorem not_canonical_exNulled : ¬Canonical exNulled := by
  intro h
  have haccepted := (h.clients _ List.mem_cons_self).accepted
  revert haccepted
  unfold Accepted
  decide +kernel

theorem step_exDb :
    step exValidators exDb (.updateClient 1 1 ⟨none, some none, none⟩) = some exNulled := by
  have hok : perform exValidators exDb (.updateClient 1 1 ⟨none, some none, none⟩) =
      .ok exNulled := rfl
  unfold step
  rw [hok]
  rfl

/-- An update with a null local part is stored as text: the local part does not pass its
validator, and a name that no account was given is taken. -/
theorem null_local_part : Canonical exDb ∧ ∃ db,
    step exValidators exDb (.updateClient 1 1 ⟨none, some none, none⟩) = some db ∧
    db.clients.rows.map Client.username = ["ab_None"] ∧ ¬Canonical db ∧
    perform exValidators db (.createClient 1 ⟨2, 2, "Ana", "none", none, "secret"⟩) =
      .error (.userFacing "client_local_username_exists") ∧
    ¬Taken db (.createClient 1 ⟨2, 2, "Ana", "none", none, "secret"⟩) := by
  refine ⟨canonical_exDb, exNulled, step_exDb, rfl, not_canonical_exNulled, rfl, ?_⟩
  rintro ⟨account, name, hname, u, hu, heq, -⟩
  obtain rfl := List.mem_singleton.mp hu
  obtain ⟨-, rfl⟩ := Prod.mk.inj (List.mem_singleton.mp hname)
  revert heq
  decide +kernel

end Trackpal.Accounts.Usernames
