import Trackpal.Foundation.Runs

/-!
# The session of the browser

The auth store keeps the session in memory and in the browser storage. Its calls write both when
their responses arrive, and in between the session may have ended.
-/

namespace Trackpal.Browser.Auth

open Trackpal.Foundation

/-! ## Data -/

/-- The text of a UUID, so never empty. -/
abbrev TenantId := Nat

abbrev Token := Nat

inductive TenantPlan where
  | starter
  | pro
deriving DecidableEq, Repr

inductive DemoTenantStatus where
  | pending
  | active
  | expired
deriving DecidableEq, Repr

inductive Locale where
  | en
  | es
deriving DecidableEq, Repr

inductive AuthFailureCode where
  | demoEnded
  | demoCredentialsReplaced
deriving DecidableEq, Repr

structure UserInfo where
  id : Nat
  role : String
  username : String
deriving DecidableEq, Repr

structure DemoHeartbeatResponse where
  isDemo : Bool
  demoTenantId : Option TenantId
  demoName : Option String
  tenantPlan : Option TenantPlan
  demoStatus : Option DemoTenantStatus
  demoActivatedAt : Option String
  demoExpiresAt : Option String
  demoCredentialsVersion : Option Nat
  demoLocale : Option Locale
  serverTime : String
deriving DecidableEq, Repr

structure TokenResponse extends DemoHeartbeatResponse where
  accessToken : Token
  refreshToken : Token
  user : UserInfo
  activeTenantId : Option TenantId
deriving DecidableEq, Repr

structure DemoAuthMetadata where
  tenantId : TenantId
  name : String
  plan : TenantPlan
  status : DemoTenantStatus
  activatedAt : Option String
  expiresAt : Option String
  credentialVersion : Nat
  locale : Locale
  serverTime : String
deriving DecidableEq, Repr

inductive AuthOutcome where
  | anonymous
  | authenticated
  | loggedOut
  | authenticationFailed
  | demoEnded
  | demoCredentialsReplaced
deriving DecidableEq, Repr

def AuthFailureCode.outcome : AuthFailureCode → AuthOutcome
  | .demoEnded => .demoEnded
  | .demoCredentialsReplaced => .demoCredentialsReplaced

/-- What `createDataSource` is made of: its context and the workspace that it works on. -/
structure DataSourceAdapter where
  tenantId : Option TenantId
  tenantPlan : Option TenantPlan
  demo : Option DemoAuthMetadata
  workspace : Option TenantId
deriving DecidableEq, Repr

def createDataSource (tenantId : Option TenantId) (tenantPlan : Option TenantPlan)
    (demo : Option DemoAuthMetadata) (existingWorkspace : Option TenantId) : DataSourceAdapter :=
  { tenantId, tenantPlan, demo,
    workspace := demo.map fun demo => existingWorkspace.getD demo.tenantId }

/-- The keys of the browser storage. An inner `none` is a text that does not parse. -/
structure Storage where
  token : Option Token
  refreshToken : Option Token
  user : Option (Option UserInfo)
  activeTenantId : Option TenantId
  tenantPlan : Option (Option TenantPlan)
  demoMetadata : Option (Option DemoAuthMetadata)
deriving DecidableEq, Repr

structure AuthState where
  token : Option Token
  refreshToken : Option Token
  user : Option UserInfo
  activeTenantId : Option TenantId
  tenantPlan : Option TenantPlan
  demo : Option DemoAuthMetadata
  dataSource : DataSourceAdapter
  authOutcome : AuthOutcome
  planDowngraded : Bool
  isMasterSupportContext : Bool
  isAuthenticated : Bool
  role : Option String
  username : String
deriving DecidableEq, Repr

/-! ## The functions of the store -/

def metadataFromHeartbeat (data : DemoHeartbeatResponse) (tenantId : Option TenantId) :
    Option DemoAuthMetadata :=
  if data.isDemo then do
    let tenantId ← data.demoTenantId <|> tenantId
    let name ← data.demoName.filter (· ≠ "")
    let plan ← data.tenantPlan
    let status ← data.demoStatus
    let credentialVersion ← data.demoCredentialsVersion
    return { tenantId, name, plan, status, credentialVersion,
             activatedAt := data.demoActivatedAt, expiresAt := data.demoExpiresAt,
             locale := data.demoLocale.getD .en, serverTime := data.serverTime }
  else none

def metadataFromToken (data : TokenResponse) : Option DemoAuthMetadata :=
  metadataFromHeartbeat data.toDemoHeartbeatResponse data.activeTenantId

def saveDemoMetadata (storage : Storage) (demo : Option DemoAuthMetadata) : Storage :=
  { storage with demoMetadata := demo.map some }

def saveTokenData (data : TokenResponse) : Storage :=
  { token := data.accessToken
    refreshToken := data.refreshToken
    user := some data.user
    activeTenantId := data.activeTenantId
    tenantPlan := data.tenantPlan.map some
    demoMetadata := (metadataFromToken data).map some }

def clearTokenData : Storage :=
  { token := none, refreshToken := none, user := none, activeTenantId := none, tenantPlan := none,
    demoMetadata := none }

def stateFromToken (data : TokenResponse) (planDowngraded : Bool) : AuthState :=
  { token := data.accessToken
    refreshToken := data.refreshToken
    user := data.user
    activeTenantId := data.activeTenantId
    tenantPlan := data.tenantPlan
    demo := metadataFromToken data
    dataSource := createDataSource data.activeTenantId data.tenantPlan (metadataFromToken data) none
    authOutcome := .authenticated
    planDowngraded := planDowngraded
    isMasterSupportContext := data.user.role == "master" && data.activeTenantId.isSome
    isAuthenticated := true
    role := data.user.role
    username := data.user.username }

def anonymousState (outcome : AuthOutcome) (planDowngraded : Bool) : AuthState :=
  { token := none
    refreshToken := none
    user := none
    activeTenantId := none
    tenantPlan := none
    demo := none
    dataSource := createDataSource none none none none
    authOutcome := outcome
    planDowngraded := planDowngraded
    isMasterSupportContext := false
    isAuthenticated := false
    role := none
    username := "" }

/-- `loadFromStorage` drops a user that does not parse. -/
def dropMalformedUser (storage : Storage) : Storage :=
  { storage with user := storage.user.filter (·.isSome) }

/-- The store as the page creates it. -/
def initialState (storage : Storage) : AuthState :=
  let user := storage.user.join
  let tenantPlan := storage.tenantPlan.join
  let demo := if storage.token.isSome then storage.demoMetadata.join else none
  { token := storage.token
    refreshToken := storage.refreshToken
    user := user
    activeTenantId := storage.activeTenantId
    tenantPlan := tenantPlan
    demo := demo
    dataSource := createDataSource storage.activeTenantId tenantPlan demo none
    authOutcome := if storage.token.isSome then .authenticated else .anonymous
    planDowngraded := false
    isMasterSupportContext := user.any (·.role == "master") && storage.activeTenantId.isSome
    isAuthenticated := storage.token.isSome
    role := user.map (·.role)
    username := (user.map (·.username)).getD "" }

/-! ## The page -/

inductive Call where
  | login
  | refresh
  | heartbeat
  | logout
  | switchTenant
deriving DecidableEq, Repr

structure Failure where
  unauthorized : Bool
  code : Option AuthFailureCode
deriving DecidableEq, Repr

inductive Answer where
  | token (data : TokenResponse)
  | heartbeat (data : DemoHeartbeatResponse)
  | done
  | failed (failure : Failure)
deriving DecidableEq, Repr

/-- A call that awaits its response. `since` is how often the session had ended at its start. -/
structure Flight where
  call : Call
  since : Nat
deriving DecidableEq, Repr

/-- A page with its storage. The last two fields belong to no variable of the source: how often the
session has ended, and the `since` of the call that wrote the session last. -/
structure Page where
  storage : Storage
  auth : AuthState
  flights : List Flight
  ended : Nat
  writer : Nat
deriving DecidableEq, Repr

inductive Action where
  | start (call : Call)
  | respond (i : Nat) (answer : Answer)
  | setTenantPlan (plan : Option TenantPlan)
  | reload
deriving DecidableEq, Repr

namespace Page

def load (storage : Storage) : Page :=
  { storage := dropMalformedUser storage, auth := initialState storage, flights := [], ended := 0,
    writer := 0 }

/-- The response interceptor of `api`. -/
def intercept (p : Page) (failure : Failure) : Page :=
  if failure.unauthorized ∧ failure.code = none then
    { p with storage := { clearTokenData with tenantPlan := p.storage.tenantPlan } }
  else p

def becomeAnonymous (p : Page) (outcome : AuthOutcome) (planDowngraded : Bool) : Page :=
  { p with storage := clearTokenData, auth := anonymousState outcome planDowngraded,
           ended := p.ended + 1 }

/-- The common end of `login`, `refresh` and `switchTenant`. -/
def becomeAuthenticated (p : Page) (since : Nat) (data : TokenResponse)
    (planDowngraded : Bool) : Page :=
  { p with storage := saveTokenData data, auth := stateFromToken data planDowngraded,
           writer := since }

def loginFailed (p : Page) (failure : Failure) : Page :=
  let outcome := (failure.code.map (·.outcome)).getD .authenticationFailed
  { p with auth := { p.auth with authOutcome := outcome } }

def loginDone (p : Page) (since : Nat) (data : TokenResponse) : Page :=
  p.becomeAuthenticated since data
    (p.auth.user.any (·.id == data.user.id) && p.auth.activeTenantId == data.activeTenantId &&
      p.auth.tenantPlan == some .pro && data.tenantPlan == some .starter)

/-- The `catch` branch of `refresh` and of `heartbeat`. -/
def sessionFailed (p : Page) (code : Option AuthFailureCode) : Page :=
  match code with
  | some code => p.becomeAnonymous code.outcome p.auth.planDowngraded
  | none => { p with auth := { p.auth with authOutcome := .authenticationFailed } }

/-- `heartbeat` takes the answer for the end of the demo. -/
def refuses (auth : AuthState) (data : DemoHeartbeatResponse) : Bool :=
  auth.demo.any fun currentDemo =>
    (metadataFromHeartbeat data auth.activeTenantId).all fun demo =>
      demo.tenantId ≠ currentDemo.tenantId || demo.status ≠ .active

def heartbeatDone (p : Page) (since : Nat) (data : DemoHeartbeatResponse) : Page :=
  if refuses p.auth data then p.sessionFailed (some .demoEnded)
  else
    let demo := metadataFromHeartbeat data p.auth.activeTenantId
    let tenantPlan := data.tenantPlan <|> p.auth.tenantPlan
    { p with
      storage :=
        { saveDemoMetadata p.storage demo with
          tenantPlan := (data.tenantPlan.map some) <|> p.storage.tenantPlan }
      auth :=
        { p.auth with
          demo := demo
          tenantPlan := tenantPlan
          authOutcome := .authenticated
          dataSource :=
            createDataSource p.auth.activeTenantId tenantPlan demo p.auth.dataSource.workspace }
      writer := since }

def logoutDone (p : Page) : Page := p.becomeAnonymous .loggedOut false

def setTenantPlan (p : Page) (plan : Option TenantPlan) : Page :=
  { p with
    storage := { p.storage with tenantPlan := plan.map some }
    auth :=
      { p.auth with
        tenantPlan := plan
        planDowngraded := p.auth.tenantPlan == some .pro && plan == some .starter
        dataSource :=
          createDataSource p.auth.activeTenantId plan p.auth.demo p.auth.dataSource.workspace } }

/-- What a call does when it is answered; a call is answered with what it asked for. -/
def receive (p : Page) (since : Nat) : Call → Answer → Option Page
  | .login, .token data => some (p.loginDone since data)
  | .login, .failed failure => some ((p.intercept failure).loginFailed failure)
  | .refresh, .token data => some (p.becomeAuthenticated since data false)
  | .refresh, .failed failure => some ((p.intercept failure).sessionFailed failure.code)
  | .heartbeat, .heartbeat data => some (p.heartbeatDone since data)
  | .heartbeat, .failed failure => some ((p.intercept failure).sessionFailed failure.code)
  | .logout, .done => some p.logoutDone
  | .logout, .failed failure => some (p.intercept failure).logoutDone
  | .switchTenant, .token data => some (p.becomeAuthenticated since data false)
  | .switchTenant, .failed failure => some (p.intercept failure)
  | _, _ => none

end Page

def step (p : Page) : Action → Option Page
  | .start call =>
    -- `refresh` rejects at once without a refresh token
    if call = .refresh ∧ p.auth.refreshToken = none then none
    else some { p with flights := p.flights ++ [⟨call, p.ended⟩] }
  | .respond i answer =>
    p.flights[i]?.bind fun flight =>
      { p with flights := p.flights.eraseIdx i }.receive flight.since flight.call answer
  | .setTenantPlan plan => some (p.setTenantPlan plan)
  | .reload =>
    some { p with storage := dropMalformedUser p.storage, auth := initialState p.storage,
                  flights := [] }

/-- Nothing of a session is in the store or in the storage. -/
structure Blank (p : Page) : Prop where
  outcome : p.auth.authOutcome ≠ .authenticated
  token : p.auth.token = none ∧ p.storage.token = none
  refreshToken : p.auth.refreshToken = none ∧ p.storage.refreshToken = none
  user : p.auth.user = none ∧ p.storage.user = none
  tenant : p.auth.activeTenantId = none ∧ p.storage.activeTenantId = none
  demo : p.auth.demo = none ∧ p.storage.demoMetadata = none

/-- What the page holds of a session was written by a call of that session. -/
def Final (p : Page) : Prop := Blank p ∨ p.writer = p.ended

/-- The two copies agree. -/
structure Agrees (p : Page) : Prop where
  authenticated : p.auth.isAuthenticated = p.storage.token.isSome
  token : p.auth.token = p.storage.token
  refreshToken : p.auth.refreshToken = p.storage.refreshToken
  tenant : p.auth.activeTenantId = p.storage.activeTenantId

def AuthState.keeps (auth : AuthState) : Bool :=
  auth.token.isSome || auth.refreshToken.isSome || auth.activeTenantId.isSome

/-- The answer comes after the session in which it was asked for, or it is a 401 for a store that
keeps what the interceptor removes. -/
def breaksOn (p : Page) (flight : Flight) : Answer → Bool
  | .token _ => flight.since < p.ended
  | .heartbeat data => flight.since < p.ended && !Page.refuses p.auth data
  | .done => false
  | .failed failure =>
    flight.call ≠ .logout && (failure.unauthorized && failure.code.isNone && p.auth.keeps)

def breaks (p : Page) : Action → Bool
  | .respond i answer => p.flights[i]?.any fun flight => breaksOn p flight answer
  | _ => false

/-- What is claimed, of a page whose calls were started before now. -/
structure Sound (p : Page) : Prop where
  final : Final p
  agrees : Agrees p

def Started (p : Page) : Prop := ∀ flight ∈ p.flights, flight.since ≤ p.ended

variable {storage : Storage} {p p' : Page} {a : Action} {since i : Nat} {data : TokenResponse}
  {downgraded : Bool} {outcome : AuthOutcome} {failure : Failure}

namespace AuthLemmas

theorem sound_becomeAnonymous (h : outcome ≠ .authenticated) :
    Sound (p.becomeAnonymous outcome downgraded) :=
  ⟨Or.inl ⟨h, ⟨rfl, rfl⟩, ⟨rfl, rfl⟩, ⟨rfl, rfl⟩, ⟨rfl, rfl⟩, ⟨rfl, rfl⟩⟩, rfl, rfl, rfl, rfl⟩

theorem sound_becomeAuthenticated :
    Sound (p.becomeAuthenticated since data downgraded) ↔ since = p.ended := by
  constructor
  · intro h
    obtain hblank | hwriter := h.final
    · exact absurd rfl hblank.outcome
    · exact hwriter
  · intro h
    exact ⟨Or.inr h, rfl, rfl, rfl, rfl⟩

theorem outcome_ne_authenticated (code : AuthFailureCode) : code.outcome ≠ .authenticated := by
  cases code <;> decide

theorem final_outcome (houtcome : outcome ≠ .authenticated) (h : Final p) :
    Final { p with auth := { p.auth with authOutcome := outcome } } :=
  h.imp (fun hblank => { hblank with outcome := houtcome }) id

theorem agrees_outcome :
    Agrees { p with auth := { p.auth with authOutcome := outcome } } ↔ Agrees p :=
  ⟨fun h => ⟨h.authenticated, h.token, h.refreshToken, h.tenant⟩,
    fun h => ⟨h.authenticated, h.token, h.refreshToken, h.tenant⟩⟩

theorem keeps_eq_false {auth : AuthState} : auth.keeps = false ↔
    auth.token = none ∧ auth.refreshToken = none ∧ auth.activeTenantId = none := by
  unfold AuthState.keeps
  rw [Bool.or_eq_false_iff, Bool.or_eq_false_iff, and_assoc]
  simp only [Option.isSome_eq_false_iff, Option.isNone_iff_eq_none]

theorem final_intercept (h : Final p) : Final (p.intercept failure) := by
  unfold Page.intercept
  split
  · exact h.imp (fun hblank => ⟨hblank.outcome, ⟨hblank.token.1, rfl⟩, ⟨hblank.refreshToken.1, rfl⟩,
      ⟨hblank.user.1, rfl⟩, ⟨hblank.tenant.1, rfl⟩, ⟨hblank.demo.1, rfl⟩⟩) id
  · exact h

theorem agrees_intercept (h : Agrees p) : Agrees (p.intercept failure) ↔
    (failure.unauthorized && failure.code.isNone && p.auth.keeps) = false := by
  unfold Page.intercept
  by_cases hremoves : failure.unauthorized ∧ failure.code = none
  · rw [if_pos hremoves, hremoves.1, hremoves.2, Option.isNone_none, Bool.true_and, Bool.true_and,
      keeps_eq_false]
    constructor
    · intro hagrees
      exact ⟨hagrees.token, hagrees.refreshToken, hagrees.tenant⟩
    · intro ⟨htoken, hrefresh, htenant⟩
      exact ⟨h.authenticated.trans (by rw [← h.token, htoken]; rfl), htoken, hrefresh, htenant⟩
  · rw [if_neg hremoves]
    refine iff_of_true h ?_
    rw [Bool.and_eq_false_iff, Bool.and_eq_false_iff]
    refine Or.inl ((not_and_or.mp hremoves).imp eq_false_of_ne_true fun hcode => ?_)
    rwa [← Option.isNone_iff_eq_none, Bool.not_eq_true] at hcode

theorem sound_loginFailed (h : Sound p) : Sound ((p.intercept failure).loginFailed failure) ↔
    (failure.unauthorized && failure.code.isNone && p.auth.keeps) = false := by
  have houtcome : (failure.code.map (·.outcome)).getD .authenticationFailed ≠
      AuthOutcome.authenticated := by
    cases failure.code with
    | none => decide
    | some code => exact outcome_ne_authenticated code
  rw [← agrees_intercept h.agrees]
  constructor
  · intro hsound
    exact agrees_outcome.mp hsound.agrees
  · intro hagrees
    exact ⟨final_outcome houtcome (final_intercept h.final), agrees_outcome.mpr hagrees⟩

theorem sound_sessionFailed (h : Sound p) :
    Sound ((p.intercept failure).sessionFailed failure.code) ↔
      (failure.unauthorized && failure.code.isNone && p.auth.keeps) = false := by
  rw [← agrees_intercept h.agrees]
  unfold Page.sessionFailed
  cases hcode : failure.code with
  | some code =>
    refine iff_of_true (sound_becomeAnonymous (outcome_ne_authenticated code)) ?_
    rw [agrees_intercept h.agrees, hcode, Option.isNone_some, Bool.and_false, Bool.false_and]
  | none =>
    constructor
    · intro hsound
      exact agrees_outcome.mp hsound.agrees
    · intro hagrees
      exact ⟨final_outcome (by decide) (final_intercept h.final), agrees_outcome.mpr hagrees⟩

theorem sound_intercept (h : Sound p) : Sound (p.intercept failure) ↔
    (failure.unauthorized && failure.code.isNone && p.auth.keeps) = false := by
  rw [← agrees_intercept h.agrees]
  exact ⟨(·.agrees), fun hagrees => ⟨final_intercept h.final, hagrees⟩⟩

theorem sound_heartbeatDone {data : DemoHeartbeatResponse} (h : Sound p) :
    Sound (p.heartbeatDone since data) ↔ since = p.ended ∨ Page.refuses p.auth data = true := by
  unfold Page.heartbeatDone
  by_cases hrefuses : Page.refuses p.auth data = true
  · rw [if_pos hrefuses]
    exact iff_of_true (sound_becomeAnonymous (by decide)) (Or.inr hrefuses)
  · rw [if_neg hrefuses, or_iff_left hrefuses]
    constructor
    · intro hsound
      obtain hblank | hwriter := hsound.final
      · exact absurd rfl hblank.outcome
      · exact hwriter
    · intro hsince
      have hagrees := h.agrees
      exact ⟨Or.inr hsince, hagrees.authenticated, hagrees.token, hagrees.refreshToken,
        hagrees.tenant⟩

theorem lt_eq_false (h : since ≤ p.ended) : decide (since < p.ended) = false ↔ since = p.ended := by
  rw [decide_eq_false_iff_not]
  omega

theorem sound_receive {flight : Flight} {answer : Answer} (h : Sound p)
    (hsince : flight.since ≤ p.ended)
    (hreceive : p.receive flight.since flight.call answer = some p') :
    Sound p' ↔ breaksOn p flight answer = false := by
  obtain ⟨call, since⟩ := flight
  cases answer with
  | token data =>
    refine Iff.trans ?_ (lt_eq_false hsince).symm
    cases call with
    | login | refresh | switchTenant =>
      rw [← Option.some.inj hreceive]
      exact sound_becomeAuthenticated
    | heartbeat | logout => cases hreceive
  | heartbeat data =>
    cases call with
    | heartbeat =>
      rw [← Option.some.inj hreceive, sound_heartbeatDone h]
      unfold breaksOn
      rw [Bool.and_eq_false_iff, lt_eq_false hsince, Bool.not_eq_false']
    | login | refresh | logout | switchTenant => cases hreceive
  | done =>
    cases call with
    | logout =>
      rw [← Option.some.inj hreceive]
      exact iff_of_true (sound_becomeAnonymous (by decide)) rfl
    | login | refresh | heartbeat | switchTenant => cases hreceive
  | failed failure =>
    cases call with
    | login =>
      rw [← Option.some.inj hreceive]
      exact sound_loginFailed h
    | refresh | heartbeat =>
      rw [← Option.some.inj hreceive]
      exact sound_sessionFailed h
    | logout =>
      rw [← Option.some.inj hreceive]
      exact iff_of_true (sound_becomeAnonymous (by decide)) rfl
    | switchTenant =>
      rw [← Option.some.inj hreceive]
      exact sound_intercept h

theorem sound_flights {flights : List Flight} (h : Sound p) : Sound { p with flights := flights } :=
  ⟨h.final.imp (fun hb => ⟨hb.1, hb.2, hb.3, hb.4, hb.5, hb.6⟩) id,
    h.agrees.1, h.agrees.2, h.agrees.3, h.agrees.4⟩

theorem sound_setTenantPlan {plan : Option TenantPlan} (h : Sound p) :
    Sound (p.setTenantPlan plan) :=
  ⟨h.final.imp (fun hb => ⟨hb.1, hb.2, hb.3, hb.4, hb.5, hb.6⟩) id,
    h.agrees.1, h.agrees.2, h.agrees.3, h.agrees.4⟩

theorem agrees_created {flights : List Flight} {ended writer : Nat} :
    Agrees ⟨dropMalformedUser storage, initialState storage, flights, ended, writer⟩ :=
  ⟨rfl, rfl, rfl, rfl⟩

theorem sound_reload (h : Sound p) :
    Sound { p with storage := dropMalformedUser p.storage, auth := initialState p.storage,
                   flights := [] } := by
  refine ⟨h.final.imp (fun hb => ?_) id, agrees_created⟩
  have houtcome : (initialState p.storage).authOutcome = .anonymous := by
    unfold initialState
    rw [hb.token.2]
    rfl
  have huser : dropMalformedUser p.storage = p.storage := by
    unfold dropMalformedUser
    rw [hb.user.2, Option.filter_none, ← hb.user.2]
  have hnone : (initialState p.storage).user = none ∧ (initialState p.storage).demo = none := by
    unfold initialState
    rw [hb.user.2, hb.token.2]
    exact ⟨rfl, rfl⟩
  rw [huser]
  exact ⟨ne_of_eq_of_ne houtcome (by decide), ⟨hb.token.2, hb.token.2⟩,
    ⟨hb.refreshToken.2, hb.refreshToken.2⟩, ⟨hnone.1, hb.user.2⟩, ⟨hb.tenant.2, hb.tenant.2⟩,
    ⟨hnone.2, hb.demo.2⟩⟩

end AuthLemmas

open AuthLemmas

theorem sound_step (h : Sound p) (hs : Started p) (hstep : step p a = some p') :
    Sound p' ↔ breaks p a = false := by
  cases a with
  | start call =>
    unfold step at hstep
    dsimp only at hstep
    split at hstep
    · cases hstep
    · rw [← Option.some.inj hstep]
      exact iff_of_true (sound_flights h) rfl
  | respond i answer =>
    obtain ⟨flight, hflight, hreceive⟩ := Option.bind_eq_some_iff.mp hstep
    have hsince : flight.since ≤ p.ended := hs flight (List.mem_of_getElem? hflight)
    have hbreaks : breaks p (.respond i answer) = breaksOn p flight answer := by
      unfold breaks
      dsimp only
      rw [hflight, Option.any_some]
    rw [hbreaks]
    have hrest : Sound { p with flights := p.flights.eraseIdx i } := sound_flights h
    have hanswer := sound_receive hrest hsince hreceive
    exact hanswer
  | setTenantPlan plan =>
    rw [← Option.some.inj hstep]
    exact iff_of_true (sound_setTenantPlan h) rfl
  | reload =>
    rw [← Option.some.inj hstep]
    exact iff_of_true (sound_reload h) rfl

namespace AuthLemmas

theorem ended_intercept : (p.intercept failure).ended = p.ended := by
  unfold Page.intercept
  split <;> rfl

theorem flights_intercept : (p.intercept failure).flights = p.flights := by
  unfold Page.intercept
  split <;> rfl

theorem ended_sessionFailed {code : Option AuthFailureCode} :
    p.ended ≤ (p.sessionFailed code).ended ∧ (p.sessionFailed code).flights = p.flights := by
  cases code with
  | none => exact ⟨Nat.le_refl _, rfl⟩
  | some code => exact ⟨Nat.le_succ p.ended, rfl⟩

theorem ended_heartbeatDone {data : DemoHeartbeatResponse} :
    p.ended ≤ (p.heartbeatDone since data).ended ∧
      (p.heartbeatDone since data).flights = p.flights := by
  unfold Page.heartbeatDone
  split
  · exact ended_sessionFailed
  · exact ⟨Nat.le_refl _, rfl⟩

theorem ended_receive {call : Call} {answer : Answer} (h : p.receive since call answer = some p') :
    p.ended ≤ p'.ended ∧ p'.flights = p.flights := by
  cases answer with
  | token data =>
    cases call with
    | login | refresh | switchTenant =>
      rw [← Option.some.inj h]
      exact ⟨Nat.le_refl _, rfl⟩
    | heartbeat | logout => cases h
  | heartbeat data =>
    cases call with
    | heartbeat =>
      rw [← Option.some.inj h]
      exact ended_heartbeatDone
    | login | refresh | logout | switchTenant => cases h
  | done =>
    cases call with
    | logout =>
      rw [← Option.some.inj h]
      exact ⟨Nat.le_succ _, rfl⟩
    | login | refresh | heartbeat | switchTenant => cases h
  | failed failure =>
    have hended : (p.intercept failure).ended = p.ended := ended_intercept
    have hflights : (p.intercept failure).flights = p.flights := flights_intercept
    cases call with
    | login | switchTenant =>
      rw [← Option.some.inj h]
      exact ⟨Nat.le_of_eq hended.symm, hflights⟩
    | refresh | heartbeat =>
      have hfailed := @ended_sessionFailed (p.intercept failure) failure.code
      rw [hended, hflights] at hfailed
      rw [← Option.some.inj h]
      exact hfailed
    | logout =>
      rw [← Option.some.inj h]
      exact ⟨hended ▸ Nat.le_succ _, hflights⟩

theorem started_step (h : Started p) (hstep : step p a = some p') : Started p' := by
  cases a with
  | start call =>
    unfold step at hstep
    dsimp only at hstep
    split at hstep
    · cases hstep
    · rw [← Option.some.inj hstep]
      intro flight hflight
      obtain hflight | hflight := List.mem_append.mp hflight
      · exact h flight hflight
      · obtain rfl := List.mem_singleton.mp hflight
        exact Nat.le_refl _
  | respond i answer =>
    obtain ⟨flight, -, hreceive⟩ := Option.bind_eq_some_iff.mp hstep
    obtain ⟨hended, hflights⟩ := ended_receive hreceive
    intro flight' hflight'
    rw [hflights] at hflight'
    exact Nat.le_trans (h flight' (List.mem_of_mem_eraseIdx hflight')) hended
  | setTenantPlan plan =>
    rw [← Option.some.inj hstep]
    exact h
  | reload =>
    rw [← Option.some.inj hstep]
    exact fun flight hflight => absurd hflight List.not_mem_nil

theorem sound_of_reaches (h : Reaches step (fun p a => breaks p a = false) (.load storage) p) :
    Sound p ∧ Started p := by
  refine h.invariant (I := fun p => Sound p ∧ Started p) ?_ ?_
  · exact ⟨⟨Or.inr rfl, agrees_created⟩, fun flight hflight => absurd hflight List.not_mem_nil⟩
  · intro p a p' ⟨hsound, hstarted⟩ hok hstep
    exact ⟨(sound_step hsound hstarted hstep).mpr hok, started_step hstarted hstep⟩

end AuthLemmas

/-- Until an action breaks it, what the page holds is of the session, and its two copies agree; such
an action ends that. -/
theorem ended_session_final
    (h : Reaches step (fun p a => breaks p a = false) (.load storage) p)
    (hstep : step p a = some p') :
    (Final p ∧ Agrees p) ∧ (Final p' ∧ Agrees p' ↔ breaks p a = false) := by
  obtain ⟨hsound, hstarted⟩ := sound_of_reaches h
  refine ⟨⟨hsound.final, hsound.agrees⟩, ?_⟩
  rw [← sound_step hsound hstarted hstep]
  exact ⟨fun h' => ⟨h'.1, h'.2⟩, fun h' => ⟨h'.final, h'.agrees⟩⟩

/-! ## A logout with a refresh in flight -/

def exUser : UserInfo := ⟨1, "admin", "shop"⟩

def exToken (token : Token) : TokenResponse :=
  { isDemo := false, demoTenantId := none, demoName := none, tenantPlan := some .pro,
    demoStatus := none, demoActivatedAt := none, demoExpiresAt := none,
    demoCredentialsVersion := none, demoLocale := none, serverTime := "2026-01-01T00:00:00Z",
    accessToken := token, refreshToken := token + 1, user := exUser, activeTenantId := some 7 }

def exPage : Page := .load (saveTokenData (exToken 10))

/-- A refresh is answered, the user logs out with a heartbeat and a second refresh in flight, and
signs in again behind the failure of the heartbeat. -/
def exSignedIn : List Action :=
  [.start .refresh, .respond 0 (.token (exToken 20)), .start .heartbeat, .start .refresh,
    .start .logout, .respond 2 .done, .respond 0 (.failed ⟨true, none⟩), .start .login,
    .respond 1 (.token (exToken 30))]

/-- The second refresh may still fail, and ends the property with an answer. -/
theorem ended_session_final_signed_in : ∃ p failed revived,
    p.ended = 1 ∧ p.storage.token = some 30 ∧ p.flights = [⟨.refresh, 0⟩] ∧
    step p (.respond 0 (.failed ⟨false, none⟩)) = some failed ∧
    step p (.respond 0 (.token (exToken 40))) = some revived ∧
    (Final failed ∧ Agrees failed) ∧ ¬(Final revived ∧ Agrees revived) := by
  have hexec : (execWhere step (fun p a => !breaks p a) exPage exSignedIn).any (fun p : Page =>
      p.ended = 1 ∧ p.storage.token = some 30 ∧ p.flights = [⟨.refresh, 0⟩]) = true := by
    decide +kernel
  obtain ⟨p, hreach, hp⟩ := exists_of_execWhere hexec
  obtain ⟨hended, htoken, hflights⟩ := of_decide_eq_true hp
  have hreach : Reaches step (fun p a => breaks p a = false) exPage p :=
    hreach.mono fun _ _ hok => by simpa using hok
  have hflight : p.flights[0]? = some ⟨.refresh, 0⟩ := by rw [hflights]; rfl
  have hresponds (answer : Answer) : step p (.respond 0 answer) =
      { p with flights := p.flights.eraseIdx 0 }.receive 0 .refresh answer := by
    simp only [step, hflight, Option.bind_some]
  have hfailed := hresponds (.failed ⟨false, none⟩)
  have hrevived := hresponds (.token (exToken 40))
  refine ⟨p, _, _, hended, htoken, hflights, hfailed, hrevived,
    (ended_session_final hreach hfailed).2.mpr ?_,
    fun hgood => absurd ((ended_session_final hreach hrevived).2.mp hgood) ?_⟩
  · simp [breaks, breaksOn, hflight]
  · simp [breaks, breaksOn, hflight, hended]

/-- The refresh that was in flight at the logout signs the user in again. -/
theorem late_refresh_revives : ∃ p, Reaches step Always exPage p ∧ ¬Final p ∧
    p.auth.isAuthenticated = true ∧ p.storage.token = some 20 := by
  have htrace : (exec step exPage [.start .refresh, .start .logout, .respond 1 .done,
      .respond 0 (.token (exToken 20))]).any (fun p : Page =>
        p.auth.authOutcome = .authenticated ∧ p.writer ≠ p.ended ∧ p.auth.isAuthenticated ∧
          p.storage.token = some 20) = true := by
    decide +kernel
  obtain ⟨p, hexec, hp⟩ := (Option.any_eq_true _ _).mp htrace
  obtain ⟨houtcome, hwriter, hauthenticated, htoken⟩ := of_decide_eq_true hp
  refine ⟨p, reaches_of_exec hexec, ?_, hauthenticated, htoken⟩
  intro hfinal
  obtain hblank | hsame := hfinal
  · exact hblank.outcome houtcome
  · exact hwriter hsame

end Trackpal.Browser.Auth
