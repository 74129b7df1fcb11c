import Trackpal.Console.Shortcut
import Trackpal.Foundation.Runs

/-!
# Answers mean what was asked

The screen that a reply of the shortcut ends with asks for an answer. The answer is understood if
the dispatcher sends it to the handler of that screen, as long as the target is what it was when
the screen was shown. The dispatcher goes by the stored step and the registration of the target.
-/

namespace Trackpal.Console.Shortcut

open Trackpal.Foundation RowsLemmas

/-! ## Screens -/

/-- What a reply asks for. -/
inductive Screen where
  | unregisteredMenu
  | blockedMenu
  | activeMenu
  | inactiveMenu
  | creatingPhone
  | creatingName
  | creatingUsername
  | creatingPasswordChoice
  | creatingPasswordManual
  | creatingConfirm
  | postCreate
  | activeDetail
  | inactiveDetail
  | editField
  | editValue
  | deactivateConfirm
  | deleteConfirm
  | subscriptionsList
  | subscriptionDetail
  | extension
  | deactivateSubscription
  | services
deriving DecidableEq, Repr

def Text.screen : Text → Option Screen
  | .menuUnregisteredWithPhone | .menuUnregisteredLidOnly => some .unregisteredMenu
  | .menuBlockedWithPhone | .menuBlockedLidOnly => some .blockedMenu
  | .menuActive => some .activeMenu
  | .menuInactive => some .inactiveMenu
  | .createPhonePrompt | .createPhoneInvalid => some .creatingPhone
  | .createPhonePrefilled | .createPhoneRegistered | .createNameEmpty | .createNameInvalid =>
    some .creatingName
  | .createNameRegistered | .createUsernameEmpty | .createUsernameInvalid => some .creatingUsername
  | .createPasswordChoice | .createPasswordChoiceInvalid => some .creatingPasswordChoice
  | .createPasswordManualPrompt | .createPasswordTooShort => some .creatingPasswordManual
  | .createSummary => some .creatingConfirm
  | .createSuccess | .postCreateInvalidOption => some .postCreate
  | .detailOptions => some .activeDetail
  | .inactiveDetailOptions => some .inactiveDetail
  | .editFieldPrompt | .editFieldInvalid => some .editField
  | .editNamePrompt | .editUsernamePrompt => some .editValue
  | .deactivateConfirm | .deactivatePromptAgain => some .deactivateConfirm
  | .inactiveDeleteConfirm | .inactiveDeletePromptAgain => some .deleteConfirm
  | .subscriptionsList | .subscriptionsListNavCreate => some .subscriptionsList
  | .subscriptionsDetailNav => some .subscriptionDetail
  | .extendDuration | .extendConfirm => some .extension
  | .subscriptionsDeactivateConfirm => some .deactivateSubscription
  | .subscriptionServicePrompt => some .services
  | _ => none

def screenOf (reply : List Text) : Option Screen := reply.getLast?.bind Text.screen

/-- The handler of a screen. The screens of an edit are the same for an active and for an inactive
client; the services are a screen of the console of the tenant. -/
def Screen.handler (kind : Kind) : Screen → Option Handler
  | .unregisteredMenu => some .unblockedMenu
  | .blockedMenu => some .blockedMenu
  | .activeMenu => some .activeClientMenu
  | .inactiveMenu => some .inactiveClientMenu
  | .creatingPhone => some .creatingPhone
  | .creatingName => some .creatingName
  | .creatingUsername => some .creatingUsername
  | .creatingPasswordChoice => some .creatingPasswordChoice
  | .creatingPasswordManual => some .creatingPasswordManual
  | .creatingConfirm => some .creatingConfirm
  | .postCreate => some .postCreateMenu
  | .activeDetail => some .activeDetail
  | .inactiveDetail => some .inactiveDetail
  | .editField => some (if kind = .inactive then .inactiveEditField else .activeEditField)
  | .editValue => some (if kind = .inactive then .inactiveEditValue else .activeEditValue)
  | .deactivateConfirm => some .activeDeactivateConfirm
  | .deleteConfirm => some .inactiveDeleteConfirm
  | .subscriptionsList => some .activeViewSubscriptions
  | .subscriptionDetail => some .viewSubscriptionDetail
  | .extension => some .activeExtendSubscription
  | .deactivateSubscription => some .activeDeactivateSubscription
  | .services => none

def Route.leadsTo : Route → Option Handler
  | Route.handler target => some target
  | Route.reset _ target => some target
  | _ => none

def Route.answers (kind : Kind) (screen : Screen) (route : Route) : Bool :=
  match Screen.handler kind screen with
  | some expected => route.leadsTo = some expected
  | none => route = Route.console

/-! ## Dialogs -/

def soleActive : List Client → Bool
  | [client] => client.isActive
  | _ => false

def collected (tenantId : Nat) (db : Database) (phone : Option String) : Bool :=
  (normalizePhone phone).any fun phone => soleActive (holders db tenantId phone)

/-- The state of the target: its registration, whether it is blocked, whether the admin is in the
subscription flow, and whether a client has the phone that the dialog has collected. -/
structure Target where
  kind : Kind
  blocked : Bool
  subscribing : Bool
  collected : Bool
deriving DecidableEq, Repr

def targetOf (tenantId : Nat) (store : Store) (data : Context) : Target :=
  ⟨kindOf store.db tenantId (normalizePhone data.temp.targetPhone),
    targetBlocked tenantId data store.db, subscribing store,
    collected tenantId store.db data.temp.phone⟩

/-- A dialog: what is stored, and the screen that waits for an answer, with the target as it was
when the screen was shown. -/
structure State where
  store : Store
  prompt : Option (Screen × Target)

/-- What can happen: the admin opens the shortcut on a contact or sends a message, the record
expires, and everything else changes the tables and the session. -/
inductive Action where
  | start (targetPhone targetLid targetJid : Option String) (adminJid : String)
  | message (turn : Turn) (text : String)
  | expire
  | elsewhere (db : Database) (session : Option AdminSession)

def keptPhone (targetPhone : Option String) : Option String :=
  normalizePhone targetPhone <|> targetPhone

/-- The new record. -/
def opened (targetPhone targetLid targetJid : Option String) (adminJid : String)
    (clientId : Option Nat) : Context where
  step := .menu
  temp := ⟨keptPhone targetPhone, targetLid, targetJid, adminJid, clientId, none, none, none,
    none, none, none, none, none⟩

/-- The screen of a response that leaves a record. -/
def promptOf (tenantId : Nat) (store : Store) (reply : List Text) : Option (Screen × Target) :=
  match store.context, screenOf reply with
  | some data, some screen => some (screen, targetOf tenantId store data)
  | _, _ => none

/-- The dialog after a message. -/
def after (tenantId : Nat) : Outcome × Store → State
  | (.response response, store) => ⟨store, promptOf tenantId store response.reply⟩
  | (_, store) => ⟨store, none⟩

def step (lib : Library) (tenantId : Nat) (s : State) : Action → Option State
  | .start targetPhone targetLid targetJid adminJid =>
    if s.store.context.isSome then none
    else
      match renderInitialContextMenu tenantId s.store.db (keptPhone targetPhone) with
      | .error _ => some s
      | .ok (menu, clientId) =>
        let store := s.store.save (opened targetPhone targetLid targetJid adminJid clientId)
        some ⟨store, promptOf tenantId store menu⟩
  | .message turn text =>
    some (after tenantId (handleActiveClientContext lib tenantId turn s.store text))
  | .expire => some ⟨{ s.store with context := none }, none⟩
  | .elsewhere db session => some { s with store := { s.store with db := db, session := session } }

/-- What two screens promise: the way back to the menu of the client that was created, and that the
confirmation cancels the subscription that was selected and no other. -/
def Screen.Acts (lib : Library) (tenantId : Nat) (store : Store) (data : Context) : Screen → Prop
  | .postCreate => ∀ turn, ∃ response store',
    handleActiveClientContext lib tenantId turn store "1" = (.response response, store') ∧
      screenOf response.reply = some .activeMenu
  | .deactivateSubscription => ∀ turn text db, confirmsLower (clean text) = true →
    (data.temp.selectedSubId.bind
      (store.db.cancelSubscription tenantId turn.refusal)) = some db →
    (handleActiveClientContext lib tenantId turn store text).2.db = db
  | _ => True

/-- The answer to the screen that waits is understood: while the target is what it was, a message
that does not cancel goes to the handler of the screen, and does what the screen says. -/
def Understood (lib : Library) (tenantId : Nat) (s : State) : Prop :=
  ∀ screen target, s.prompt = some (screen, target) → ∃ data, s.store.context = some data ∧
    ∀ store, store.context = some data → targetOf tenantId store data = target →
      (∀ text, isCancel (clean text) = false →
        (routeOf tenantId store data text).answers target.kind screen = true) ∧
      screen.Acts lib tenantId store data

def creation (lib : Library) (tenantId : Nat) (turn : Turn) (db : Database) (data : Context) :
    Option Client :=
  match creationPayload lib data.temp with
  | none => none
  | some payload =>
    match db.createClient tenantId turn.refusal turn.tenantExists turn.newId payload with
    | .ok (some client, _) => some client
    | _ => none

/-- After the creation of a client the dialog finds it under the phone that it has collected. -/
def findable (tenantId : Nat) (db : Database) (phone : Option String) (client : Client) : Bool :=
  (normalizePhone phone).any fun phone =>
    soleActive ((if phoneMatches phone client.phone then [client] else []) ++
      holders db tenantId phone)

/-- The messages to a handler that lead to a screen whose answer is not understood:
* the choice to deactivate a subscription;
* any other answer to the screen of a subscription that is gone, and the way back to it;
* the confirmation of a creation that registers the phone of the target, or after which the client
  is not found under the phone that the dialog has collected;
* after the creation of a client that is not the target, the way back to its menu, and any answer
  when it is not found;
* the confirmation to deactivate a client whose phone another client has in the other form. -/
def misleadsAt (lib : Library) (tenantId : Nat) (turn : Turn) (store : Store) (data : Context)
    (text : String) : Handler → Bool
  | .viewSubscriptionDetail =>
    !isBack (clean text) && (clean text = "2" ||
      (data.temp.selectedSubId.bind (store.db.getSubscription tenantId)).isNone)
  | .activeExtendSubscription => isBack (clean text) &&
    (data.temp.extendSubId.bind (store.db.getSubscription tenantId)).isNone
  | .creatingConfirm =>
    confirms text && (creation lib tenantId turn store.db data).any fun client =>
      (normalizePhone data.temp.targetPhone).any (phoneMatches · client.phone) ||
        !findable tenantId store.db data.temp.phone client
  | .postCreateMenu =>
    if clean text = "1" then
      match (normalizePhone data.temp.phone).elim (.ok none) (store.db.activeClient tenantId) with
      | .error _ => false
      | .ok none => true
      | .ok (some _) => collected tenantId store.db data.temp.phone
    else !collected tenantId store.db data.temp.phone
  | .activeDeactivateConfirm =>
    !isBack (clean text) && confirms text && turn.refusal.isNone &&
      (normalizePhone data.temp.targetPhone).any fun phone =>
        (store.db.anyClient tenantId phone).toOption.isNone
  | _ => false

/-- The messages that lead to a screen whose answer is not understood. -/
def misleads (lib : Library) (tenantId : Nat) (store : Store) (turn : Turn) (text : String) :
    Bool :=
  match store.context with
  | none => false
  | some data =>
    match routeOf tenantId store data text with
    | .handler handler => misleadsAt lib tenantId turn store data text handler
    | _ => false

/-- The contacts on which the first screen is not understood: a phone without digits, under which
there is a client or a block. -/
def misopens (tenantId : Nat) (db : Database) (targetPhone : Option String) : Bool :=
  (normalizePhone targetPhone).isNone && (truthy targetPhone).any fun phone =>
    match db.anyClient tenantId phone with
    | .ok (some _) => true
    | .ok none => (db.findActive tenantId (some phone) none).isSome
    | .error _ => false

/-- The steps that lead to a screen whose answer is not understood. -/
def misled (lib : Library) (tenantId : Nat) (s : State) : Action → Bool
  | .start targetPhone _ _ _ => misopens tenantId s.store.db targetPhone
  | .message turn text => misleads lib tenantId s.store turn text
  | _ => false

variable {lib : Library} {tenantId : Nat} {store store' : Store} {data : Context} {turn : Turn}
  {text : String} {reply : List Text} {screen : Screen} {kind : Kind} {target : Target}

namespace AnswersLemmas

/-! ## Routes -/

/-- Where a message that does not cancel goes. -/
def routeFor (target : Target) (step : Step) : Route :=
  route step target.kind false target.blocked target.subscribing

theorem routeOf_eq (h : isCancel (clean text) = false) :
    routeOf tenantId store data text = routeFor (targetOf tenantId store data) data.step := by
  unfold routeOf
  rw [h]
  rfl

def handlerKind : Handler → Kind
  | .activeClientMenu | .activeDetail | .activeEditField | .activeEditValue
  | .activeDeactivateConfirm | .activeViewSubscriptions | .viewSubscriptionDetail
  | .activeExtendSubscription | .activeDeactivateSubscription => .active
  | .inactiveClientMenu | .inactiveDetail | .inactiveEditField | .inactiveEditValue
  | .inactiveDeleteConfirm => .inactive
  | _ => .unregistered

def handlerSteps : Handler → List Step
  | .unblockedMenu | .blockedMenu => [.menu]
  | .creatingFirst => [.creating]
  | .creatingPhone => [.creatingPhone]
  | .creatingName => [.creatingName]
  | .creatingUsername => [.creatingUsername]
  | .creatingPasswordChoice => [.creatingPasswordChoice]
  | .creatingPasswordManual => [.creatingPasswordManual]
  | .creatingConfirm => [.creatingConfirm]
  | .postCreateMenu => [.postCreateMenu]
  | .activeClientMenu => [.activeMenu]
  | .activeDetail => [.activeDetail]
  | .activeEditField => [.activeEditField]
  | .activeEditValue => [.activeEditValue]
  | .activeDeactivateConfirm => [.activeDeactivateConfirm]
  | .activeViewSubscriptions => [.activeViewSubscriptions]
  | .viewSubscriptionDetail => [.activeSubscriptionDetail]
  | .activeExtendSubscription => [.activeExtendSubs, .activeExtendSubsConfirm]
  | .activeDeactivateSubscription => []
  | .inactiveClientMenu => [.inactiveMenu]
  | .inactiveDetail => [.inactiveDetail]
  | .inactiveEditField => [.inactiveEditField]
  | .inactiveEditValue => [.inactiveEditValue]
  | .inactiveDeleteConfirm => [.inactiveDeleteConfirm]

theorem of_route {step : Step} {cancel blocked subscribing : Bool} {handler : Handler}
    (h : route step kind cancel blocked subscribing = .handler handler) :
    step ∈ handlerSteps handler ∧ kind = handlerKind handler ∧ cancel = false ∧
      (step = .menu → handler = if blocked then .blockedMenu else .unblockedMenu) := by
  unfold route at h
  split at h
  · split at h <;> cases h
  split at h
  · cases h
  next hambiguous =>
  split at h
  · cases h
  next hactive =>
  split at h
  · cases h
  next hinactive =>
  split at h
  · cases h
  next hcancel =>
  rw [Bool.not_eq_true] at hcancel
  subst hcancel
  cases kind with
  | ambiguous => exact absurd rfl hambiguous
  | unregistered => cases step <;> cases h <;> cases blocked <;> decide
  | active =>
    cases step <;>
      first | cases h; cases blocked <;> decide | exact absurd ⟨rfl, by decide⟩ hactive
  | inactive =>
    cases step <;>
      first | cases h; cases blocked <;> decide | exact absurd ⟨rfl, by decide⟩ hinactive

theorem of_route_reset {step first : Step} {cancel blocked subscribing : Bool} {handler : Handler}
    (h : route step kind cancel blocked subscribing = .reset first handler) :
    (kind = .active ∧ first = .activeMenu ∧ handler = .activeClientMenu) ∨
      (kind = .inactive ∧ first = .inactiveMenu ∧ handler = .inactiveClientMenu) := by
  unfold route at h
  split at h
  · split at h <;> cases h
  split at h
  · cases h
  split at h
  · next hactive =>
    cases h
    exact Or.inl ⟨hactive.1, rfl, rfl⟩
  split at h
  · next hinactive =>
    cases h
    exact Or.inr ⟨hinactive.1, rfl, rfl⟩
  split at h
  · cases h
  · unfold routeByStep at h
    cases step <;> dsimp only at h <;> first | cases h | (split at h <;> cases h)

theorem answers_deactivateSubscription {step : Step} :
    (routeFor target step).answers target.kind .deactivateSubscription = false := by
  cases hroute : routeFor target step with
  | handler handler =>
    refine decide_eq_false fun heq => ?_
    cases heq
    exact absurd (of_route hroute).1 List.not_mem_nil
  | reset first handler =>
    refine decide_eq_false fun heq => ?_
    cases heq
    obtain ⟨-, -, h⟩ | ⟨-, -, h⟩ := of_route_reset hroute <;> cases h
  | _ => rfl

/-! ## The client that was created -/

theorem soleActive_eq_true {rows : List Client} :
    soleActive rows = true ↔ ∃ client, rows = [client] ∧ client.isActive = true := by
  match rows with
  | [] => simp [soleActive]
  | [_] => simp [soleActive]
  | _ :: _ :: _ => simp [soleActive]

theorem collected_eq_true {phone : Option String} :
    collected tenantId store.db phone = true ↔ ∃ raw digits client, phone = some raw ∧
      normalizePhone (some raw) = some digits ∧
      holders store.db tenantId digits = [client] ∧ client.isActive = true := by
  unfold collected
  rw [Option.any_eq_true]
  constructor
  · rintro ⟨digits, hdigits, hsole⟩
    obtain ⟨raw, rfl, -⟩ := Option.bind_eq_some_iff.mp hdigits
    obtain ⟨client, hrows, hactive⟩ := soleActive_eq_true.mp hsole
    exact ⟨raw, digits, client, rfl, hdigits, hrows, hactive⟩
  · rintro ⟨raw, digits, client, rfl, hdigits, hrows, hactive⟩
    exact ⟨digits, hdigits, soleActive_eq_true.mpr ⟨client, hrows, hactive⟩⟩

theorem postCreate_menu (h : collected tenantId store.db data.temp.phone = true) {store₀ : Store}
    (hdb : store₀.db = store.db) : ∃ clientId, handlePostCreateMenu tenantId store₀ data "1" =
      (.response (say data.temp.adminJid activeMenuText), store₀.save { data with
        step := .activeMenu
        temp := { data.temp with clientId := clientId } }) := by
  obtain ⟨raw, digits, client, hraw, hdigits, hrows, hactive⟩ := collected_eq_true.mp h
  have hone : store₀.db.activeClient tenantId digits = .ok (some client) := by
    rw [hdb, activeClient_eq, hrows, List.filter_cons, if_pos hactive]
    rfl
  have hany : store₀.db.anyClient tenantId raw = .ok (some client) := by
    rw [hdb, anyClient_eq, holders_normalize hdigits, hrows]
    rfl
  have hmenu : renderInitialContextMenu tenantId store₀.db (some raw) =
      .ok (activeMenuText, some client.id) := by
    unfold renderInitialContextMenu
    rw [truthy_of_normalizePhone hdigits]
    dsimp only
    rw [hany]
    simp only [bind, Except.bind, hactive, if_true]
    rfl
  refine ⟨some client.id, ?_⟩
  unfold handlePostCreateMenu
  rw [hraw, hdigits]
  simp only [Option.elim_some, hone, hmenu, if_true]
  rfl

theorem render_of_not_collected {phone : Option String}
    (h : collected tenantId store.db phone = false) {client : Client}
    (hone : (normalizePhone phone).elim (.ok none) (store.db.activeClient tenantId) =
      .ok (some client)) :
    renderInitialContextMenu tenantId store.db phone = .error .multipleResultsFound := by
  cases hnorm : normalizePhone phone with
  | none =>
    rw [hnorm] at hone
    cases hone
  | some digits =>
    obtain ⟨raw, rfl, -⟩ := Option.bind_eq_some_iff.mp hnorm
    rw [hnorm, Option.elim_some, activeClient_eq, scalar_eq_some] at hone
    have hrows : ∀ c, holders store.db tenantId digits ≠ [c] := by
      intro c hrows
      rw [hrows] at hone
      have hactive : c.isActive = true := by
        by_contra hinactive
        rw [List.filter_cons, if_neg hinactive] at hone
        cases hone
      have hcollected := collected_eq_true.mpr ⟨raw, digits, c, rfl, hnorm, hrows, hactive⟩
      rw [h] at hcollected
      cases hcollected
    unfold renderInitialContextMenu
    rw [truthy_of_normalizePhone hnorm]
    dsimp only
    rw [anyClient_eq, holders_normalize hnorm]
    match hlist : holders store.db tenantId digits with
    | [] =>
      rw [hlist] at hone
      cases hone
    | [c] => exact absurd hlist (hrows c)
    | _ :: _ :: _ => rfl

/-! ## Screens that are shown -/

theorem withClientId_none : withClientId data none = data := rfl

theorem clientOf_unregistered {phone : Option String}
    (h : kindOf store.db tenantId phone = .unregistered) :
    clientOf (registration store.db tenantId phone) = none := by
  unfold kindOf at h
  cases hreg : registration store.db tenantId phone with
  | unregistered => rfl
  | ambiguous => rfl
  | active c =>
    rw [hreg] at h
    cases h
  | inactive c =>
    rw [hreg] at h
    cases h

theorem handle_of_handler {handler : Handler} (hctx : store.context = some data)
    (h : routeOf tenantId store data text = .handler handler) :
    handleActiveClientContext lib tenantId turn store text =
      runHandler lib tenantId turn store (withClientId data
        (clientOf (registration store.db tenantId (normalizePhone data.temp.targetPhone))))
        (clientOf (registration store.db tenantId (normalizePhone data.temp.targetPhone)))
        text handler := by
  unfold handleActiveClientContext
  rw [hctx]
  dsimp only
  rw [h]

theorem acts_postCreate (hctx : store.context = some data)
    (h : (routeFor (targetOf tenantId store data) data.step).answers
      (targetOf tenantId store data).kind .postCreate = true) :
    Screen.Acts lib tenantId store data .postCreate ↔
      collected tenantId store.db data.temp.phone = true := by
  have hone : isCancel (clean "1") = false := by decide
  have hclean : clean "1" = "1" := by decide
  have hroute : routeOf tenantId store data "1" = .handler .postCreateMenu := by
    rw [routeOf_eq hone]
    cases hroute : routeFor (targetOf tenantId store data) data.step with
    | handler handler =>
      rw [hroute] at h
      rw [Option.some.inj (of_decide_eq_true h)]
    | reset first handler =>
      rw [hroute] at h
      obtain ⟨-, -, rfl⟩ | ⟨-, -, rfl⟩ := of_route_reset hroute <;> cases h
    | console | finished | close | clear | raise =>
      rw [hroute] at h
      cases h
  have hkind : kindOf store.db tenantId (normalizePhone data.temp.targetPhone) = .unregistered :=
    (of_route hroute).2.1
  have hrun : ∀ turn, handleActiveClientContext lib tenantId turn store "1" =
      handlePostCreateMenu tenantId store data "1" := by
    intro turn
    rw [handle_of_handler hctx hroute, clientOf_unregistered hkind]
    unfold runHandler
    rw [hclean]
    rfl
  constructor
  · intro hacts
    obtain ⟨response, store', hresponse, hscreen⟩ := hacts ⟨none, true, 0, "", true⟩
    rw [hrun] at hresponse
    by_contra hnot
    rw [Bool.not_eq_true] at hnot
    unfold handlePostCreateMenu at hresponse
    dsimp only at hresponse
    rw [if_pos rfl] at hresponse
    split at hresponse
    · cases hresponse
    · rw [if_neg (by decide)] at hresponse
      cases hresponse
      cases hscreen
    · next client hfound =>
      rw [render_of_not_collected hnot hfound] at hresponse
      cases hresponse
  · intro hcollected turn
    obtain ⟨clientId, hmenu⟩ := postCreate_menu hcollected rfl
    exact ⟨_, _, (hrun turn).trans hmenu, rfl⟩

structure Answerable (target : Target) (step : Step) (screen : Screen) : Prop where
  routed : (routeFor target step).answers target.kind screen = true
  acts : screen = .postCreate → target.collected = true

theorem understood_iff {s : State} (hctx : s.store.context = some data)
    (hprompt : s.prompt = some (screen, targetOf tenantId s.store data)) :
    Understood lib tenantId s ↔ Answerable (targetOf tenantId s.store data) data.step screen := by
  have hone : isCancel (clean "1") = false := by decide
  constructor
  · intro h
    obtain ⟨data', hdata, h⟩ := h _ _ hprompt
    obtain rfl : data = data' := Option.some.inj (hctx.symm.trans hdata)
    obtain ⟨hrouted, hacts⟩ := h s.store hctx rfl
    have hrouted := hrouted "1" hone
    rw [routeOf_eq hone] at hrouted
    refine ⟨hrouted, ?_⟩
    rintro rfl
    exact (acts_postCreate hctx hrouted).mp hacts
  · intro h screen' target hprompt'
    obtain ⟨rfl, rfl⟩ := Prod.mk.inj (Option.some.inj (hprompt.symm.trans hprompt'))
    refine ⟨data, hctx, fun store hstore htarget => ⟨fun text htext => ?_, ?_⟩⟩
    · rw [routeOf_eq htext, htarget]
      exact h.routed
    · have hrouted := h.routed
      rw [← htarget] at hrouted
      cases screen with
      | postCreate =>
        refine (acts_postCreate hstore hrouted).mpr ?_
        exact (congrArg Target.collected htarget).trans (h.acts rfl)
      | deactivateSubscription =>
        rw [answers_deactivateSubscription] at hrouted
        cases hrouted
      | _ => trivial

theorem understood_of_prompt {s : State} (h : s.prompt = none) : Understood lib tenantId s := by
  intro screen target hprompt
  rw [h] at hprompt
  cases hprompt

variable {response : Response}

theorem after_response (hctx : store.context = some data)
    (hscreen : screenOf response.reply = some screen) :
    Understood lib tenantId (after tenantId (.response response, store)) ↔
      Answerable (targetOf tenantId store data) data.step screen := by
  refine understood_iff hctx ?_
  show promptOf tenantId store response.reply = _
  unfold promptOf
  rw [hctx, hscreen]
  rfl

theorem after_silent (hscreen : screenOf response.reply = none) :
    Understood lib tenantId (after tenantId (.response response, store)) := by
  refine understood_of_prompt ?_
  show promptOf tenantId store response.reply = none
  unfold promptOf
  rw [hscreen]
  cases store.context <;> rfl

theorem after_clear : Understood lib tenantId (after tenantId (.response response, store.clear)) :=
  understood_of_prompt rfl

theorem after_shown (hctx : store.context = some data)
    (hscreen : screenOf response.reply = some screen)
    (hkind : kindOf store.db tenantId (normalizePhone data.temp.targetPhone) = kind)
    (hroute : ∀ blocked subscribing,
      (route data.step kind false blocked subscribing).answers kind screen = true)
    (hother : screen ≠ .postCreate) :
    Understood lib tenantId (after tenantId (.response response, store)) := by
  refine (after_response hctx hscreen).mpr ⟨?_, fun h => absurd h hother⟩
  subst hkind
  exact hroute _ _

theorem after_misled (hctx : store.context = some data)
    (hscreen : screenOf response.reply = some screen)
    (hkind : kindOf store.db tenantId (normalizePhone data.temp.targetPhone) = kind)
    (hroute : ∀ blocked subscribing,
      (route data.step kind false blocked subscribing).answers kind screen = false) :
    ¬Understood lib tenantId (after tenantId (.response response, store)) := by
  intro h
  have hrouted := ((after_response hctx hscreen).mp h).routed
  subst hkind
  exact Bool.false_ne_true ((hroute _ _).symm.trans hrouted)

/-! ## The creation of a client -/

section
variable (hkind : kindOf store.db tenantId (normalizePhone data.temp.targetPhone) = .unregistered)
include hkind

theorem after_creatingFirst :
    Understood lib tenantId (after tenantId (saved store (handleCtxCreatingFirst data))) := by
  unfold handleCtxCreatingFirst
  split
  · exact after_shown rfl rfl hkind (fun _ _ => rfl) (by decide)
  · exact after_shown rfl rfl hkind (fun _ _ => rfl) (by decide)

theorem after_creatingPhone (hstep : data.step = .creatingPhone) :
    Understood lib tenantId
      (after tenantId (saved store (handleCtxCreatingPhone lib data text))) := by
  unfold handleCtxCreatingPhone
  split
  · exact after_shown rfl rfl hkind (hstep ▸ fun _ _ => rfl) (by decide)
  · exact after_shown rfl rfl hkind (fun _ _ => rfl) (by decide)

theorem after_creatingName (hstep : data.step = .creatingName) :
    Understood lib tenantId
      (after tenantId (saved store (handleCtxCreatingName lib data text))) := by
  unfold handleCtxCreatingName
  split
  · exact after_shown rfl rfl hkind (hstep ▸ fun _ _ => rfl) (by decide)
  split
  · exact after_shown rfl rfl hkind (hstep ▸ fun _ _ => rfl) (by decide)
  · exact after_shown rfl rfl hkind (fun _ _ => rfl) (by decide)

theorem after_creatingUsername (hstep : data.step = .creatingUsername) :
    Understood lib tenantId
      (after tenantId (saved store (handleCtxCreatingUsername lib data text))) := by
  unfold handleCtxCreatingUsername
  split
  · exact after_shown rfl rfl hkind (hstep ▸ fun _ _ => rfl) (by decide)
  split
  · exact after_shown rfl rfl hkind (hstep ▸ fun _ _ => rfl) (by decide)
  · exact after_shown rfl rfl hkind (fun _ _ => rfl) (by decide)

theorem after_creatingPasswordChoice (hstep : data.step = .creatingPasswordChoice) :
    Understood lib tenantId
      (after tenantId (saved store (handleCtxCreatingPasswordChoice turn data text))) := by
  unfold handleCtxCreatingPasswordChoice
  split
  · exact after_shown rfl rfl hkind (fun _ _ => rfl) (by decide)
  split
  · exact after_shown rfl rfl hkind (fun _ _ => rfl) (by decide)
  · exact after_shown rfl rfl hkind (hstep ▸ fun _ _ => rfl) (by decide)

theorem after_creatingPasswordManual (hstep : data.step = .creatingPasswordManual) :
    Understood lib tenantId
      (after tenantId (saved store (handleCtxCreatingPasswordManual data text))) := by
  unfold handleCtxCreatingPasswordManual
  split
  · exact after_shown rfl rfl hkind (hstep ▸ fun _ _ => rfl) (by decide)
  · exact after_shown rfl rfl hkind (fun _ _ => rfl) (by decide)

theorem after_unblockedMenu {message : String} :
    Understood lib tenantId
      (after tenantId (handleCtxUnblockedMenu tenantId turn store data message)) := by
  unfold handleCtxUnblockedMenu
  split
  · show Understood lib tenantId
      (after tenantId (saved store (handleCtxCreatingFirst { data with step := .creating })))
    refine after_creatingFirst ?_
    exact hkind
  split
  · split
    · exact understood_of_prompt rfl
    · exact after_clear
  split
  · exact after_clear
  · exact after_silent rfl

end

theorem after_blockedMenu {message : String} :
    Understood lib tenantId
      (after tenantId (handleCtxBlockedMenu tenantId store data message)) := by
  unfold handleCtxBlockedMenu
  split
  · exact after_clear
  split
  · exact after_clear
  · exact after_silent rfl

/-! ## An active client -/

theorem screenOf_append {reply : List Text} {last : Text} :
    screenOf (reply ++ [last]) = last.screen := by
  unfold screenOf
  rw [List.getLast?_concat, Option.bind_some]

theorem screenOf_list {subscriptions : List Subscription} :
    screenOf (subscriptionsListText subscriptions) = some .subscriptionsList :=
  screenOf_append

theorem screenOf_cons_list {first : Text} {subscriptions : List Subscription} :
    screenOf (first :: subscriptionsListText subscriptions) = some .subscriptionsList := by
  unfold subscriptionsListText
  rw [← List.cons_append]
  exact screenOf_append

variable {client : Client} {message : String}

theorem after_startContextSubscription :
    Understood lib tenantId
      (after tenantId (startContextSubscription tenantId store data client)) := by
  unfold startContextSubscription
  dsimp only
  split
  · exact after_clear
  · refine (after_response rfl rfl).mpr ⟨rfl, fun h => ?_⟩
    cases h

section
variable (hkind : kindOf store.db tenantId (normalizePhone data.temp.targetPhone) = .active)
include hkind

theorem after_activeViewSubscriptions (hstep : data.step = .activeViewSubscriptions) :
    Understood lib tenantId
      (after tenantId (handleCtxActiveViewSubscriptions tenantId store data client message)) := by
  have hinvalid : ∀ subscriptions, Understood lib tenantId (after tenantId
      (.response (say data.temp.adminJid (.invalidOption :: subscriptionsListText subscriptions)),
        store.keep data)) := fun subscriptions =>
    after_shown rfl screenOf_cons_list hkind (hstep ▸ fun _ _ => rfl) (by decide)
  unfold handleCtxActiveViewSubscriptions
  dsimp only
  split
  · exact after_shown rfl screenOf_list hkind (hstep ▸ fun _ _ => rfl) (by decide)
  split
  · exact after_shown rfl rfl hkind (fun _ _ => rfl) (by decide)
  split
  · split
    · exact understood_of_prompt rfl
    split
    · exact after_shown rfl rfl hkind (fun _ _ => rfl) (by decide)
    split
    · exact after_startContextSubscription
    · exact hinvalid _
  · exact hinvalid _

theorem after_activeClientMenu (hstep : data.step = .activeMenu) :
    Understood lib tenantId
      (after tenantId (handleCtxActiveClientMenu tenantId store data client message)) := by
  unfold handleCtxActiveClientMenu
  dsimp only
  split
  · exact after_shown rfl rfl hkind (fun _ _ => rfl) (by decide)
  split
  · exact after_shown rfl rfl hkind (fun _ _ => rfl) (by decide)
  split
  · refine after_activeViewSubscriptions ?_ rfl
    exact hkind
  split
  · exact after_shown rfl rfl hkind (fun _ _ => rfl) (by decide)
  split
  · exact after_shown rfl rfl hkind (hstep ▸ fun _ _ => rfl) (by decide)
  · exact after_shown rfl rfl hkind (hstep ▸ fun _ _ => rfl) (by decide)

theorem after_activeDetail (hstep : data.step = .activeDetail) :
    Understood lib tenantId (after tenantId (handleCtxActiveDetail store data message)) := by
  unfold handleCtxActiveDetail
  dsimp only
  split
  · exact after_shown rfl rfl hkind (fun _ _ => rfl) (by decide)
  split
  · exact after_shown rfl rfl hkind (fun _ _ => rfl) (by decide)
  split
  · exact after_shown rfl rfl hkind (fun _ _ => rfl) (by decide)
  · exact after_shown rfl rfl hkind (hstep ▸ fun _ _ => rfl) (by decide)

theorem after_viewSubscriptionDetail (hstep : data.step = .activeSubscriptionDetail) :
    Understood lib tenantId
      (after tenantId (handleCtxViewSubscriptionDetail tenantId store data client message)) ↔
      (!isBack message && (message = "2" ||
        (data.temp.selectedSubId.bind (store.db.getSubscription tenantId)).isNone)) = false := by
  unfold handleCtxViewSubscriptionDetail
  dsimp only
  split
  · next hback =>
    rw [hback]
    exact iff_of_true (after_shown rfl screenOf_list hkind (fun _ _ => rfl) (by decide)) rfl
  next hback =>
  rw [Bool.not_eq_true] at hback
  rw [hback]
  split
  · next hone =>
    rw [Bool.and_eq_true, decide_eq_true_eq] at hone
    obtain ⟨rfl, hsub⟩ := hone
    refine iff_of_true (after_shown rfl rfl hkind (fun _ _ => rfl) (by decide)) ?_
    rw [Option.isNone_eq_false_iff.mpr hsub]
    rfl
  next hone =>
  split
  · next htwo =>
    refine iff_of_false (after_misled rfl rfl hkind fun _ _ => rfl) ?_
    simp [htwo]
  next htwo =>
  split
  · next hsub =>
    refine iff_of_true (after_shown rfl rfl hkind (hstep ▸ fun _ _ => rfl) (by decide)) ?_
    simp [htwo, hsub]
  · next hsub =>
    refine iff_of_false (after_misled rfl rfl hkind (hstep ▸ fun _ _ => rfl)) ?_
    simp [htwo, hsub]

theorem after_activeExtendSubscription
    (hstep : data.step = .activeExtendSubs ∨ data.step = .activeExtendSubsConfirm) :
    Understood lib tenantId (after tenantId
      (handleCtxActiveExtendSubscription lib tenantId turn store data client message)) ↔
      (isBack message &&
        (data.temp.extendSubId.bind (store.db.getSubscription tenantId)).isNone) = false := by
  have hshown : ∀ blocked subscribing,
      (route data.step .active false blocked subscribing).answers .active .extension = true := by
    obtain hstep | hstep := hstep <;> rw [hstep] <;> exact fun _ _ => rfl
  unfold handleCtxActiveExtendSubscription
  dsimp only
  split
  · next hback =>
    rw [hback]
    unfold subscriptionOrList
    split
    · next hsub =>
      refine iff_of_true (after_shown rfl rfl hkind (fun _ _ => rfl) (by decide)) ?_
      simp [hsub]
    · next hsub =>
      refine iff_of_false (after_misled rfl screenOf_list hkind fun _ _ => rfl) ?_
      simp [hsub]
  next hback =>
  rw [Bool.not_eq_true] at hback
  rw [hback]
  refine iff_of_true ?_ rfl
  split
  · split
    · exact after_shown rfl rfl hkind (fun _ _ => rfl) (by decide)
    · exact after_silent rfl
  split
  · split
    · split
      · exact after_silent rfl
      · next db hdb =>
        have hclients : db.clients = store.db.clients := by
          unfold Database.renewSubscription at hdb
          split at hdb
          · cases hdb
            rfl
          · cases hdb
        have hkept : kindOf db tenantId (normalizePhone data.temp.targetPhone) = .active :=
          (congrArg Registration.kind (registration_congr hclients)).trans hkind
        exact after_shown rfl screenOf_cons_list hkept (fun _ _ => rfl) (by decide)
    · exact after_silent rfl
  · exact after_shown rfl rfl hkind hshown (by decide)

end

/-! ## Edits -/

structure EditShown (kind : Kind) (steps : EditSteps) (detail : Screen) : Prop where
  text : ∀ reply, screenOf (reply ++ steps.detailText) = some detail
  back : ∀ blocked subscribing,
    (route steps.detail kind false blocked subscribing).answers kind detail = true
  field : ∀ blocked subscribing,
    (route steps.field kind false blocked subscribing).answers kind .editField = true
  value : ∀ blocked subscribing,
    (route steps.value kind false blocked subscribing).answers kind .editValue = true
  other : detail ≠ .postCreate

theorem activeEdit_shown : EditShown .active activeEdit .activeDetail where
  text _ := by
    unfold screenOf
    rw [List.getLast?_append]
    rfl
  back _ _ := rfl
  field _ _ := rfl
  value _ _ := rfl
  other := by decide

theorem inactiveEdit_shown : EditShown .inactive inactiveEdit .inactiveDetail where
  text _ := by
    unfold screenOf
    rw [List.getLast?_append]
    rfl
  back _ _ := rfl
  field _ _ := rfl
  value _ _ := rfl
  other := by decide

theorem screenOf_editPrompt {first : Text} {field : Option Database.EditField} :
    screenOf [first, editPrompt field] = some .editValue := by
  match field with
  | some .fullName => rfl
  | some .localUsername => rfl
  | none => rfl

section
variable {steps : EditSteps} {detail : Screen} (hshown : EditShown kind steps detail)
  (hkind : kindOf store.db tenantId (normalizePhone data.temp.targetPhone) = kind)
include hshown hkind

theorem after_editField (hstep : data.step = steps.field) :
    Understood lib tenantId (after tenantId (editField store data steps message)) := by
  unfold editField
  dsimp only
  split
  · exact after_shown rfl (hshown.text []) hkind hshown.back hshown.other
  split
  · exact after_shown rfl rfl hkind hshown.value (by decide)
  split
  · exact after_shown rfl rfl hkind hshown.value (by decide)
  · exact after_shown rfl rfl hkind (hstep ▸ hshown.field) (by decide)

theorem after_editValue (hstep : data.step = steps.value) :
    Understood lib tenantId
      (after tenantId (editValue lib tenantId turn store data steps text message)) := by
  unfold editValue
  dsimp only
  split
  · exact after_shown rfl rfl hkind hshown.field (by decide)
  split
  · split
    · exact after_shown rfl screenOf_editPrompt hkind (hstep ▸ hshown.value) (by decide)
    · exact after_clear
    · exact after_clear
    · next hupdate =>
      have hkept := (kind_update hupdate).trans hkind
      exact after_shown rfl (hshown.text [.editUpdatedSuccess]) hkept hshown.back hshown.other
  · exact understood_of_prompt rfl

end

/-! ## Deactivation and deletion -/

theorem after_backToMenu {first : Step} {menu : List Text} (hscreen : screenOf menu = some screen)
    (hkind : kindOf store.db tenantId (normalizePhone data.temp.targetPhone) = kind)
    (hroute : ∀ blocked subscribing,
      (route first kind false blocked subscribing).answers kind screen = true)
    (hother : screen ≠ .postCreate) :
    Understood lib tenantId (after tenantId (backToMenu tenantId turn store data first menu)) := by
  unfold backToMenu
  dsimp only
  split
  · exact understood_of_prompt rfl
  split
  · exact after_clear
  · exact after_shown rfl hscreen hkind hroute hother

theorem after_activeDeactivateConfirm {data₀ : Context} (hctx : store.context = some data₀)
    (hstep : data₀.step = .activeDeactivateConfirm) {phone : String}
    (hphone : normalizePhone data.temp.targetPhone = some phone)
    (hphone₀ : data₀.temp.targetPhone = data.temp.targetPhone)
    (hactive : registration store.db tenantId (some phone) = .active client)
    (hclient : data.temp.clientId = some client.id) :
    Understood lib tenantId (after tenantId
      (handleCtxActiveDeactivateConfirm tenantId turn store data text message)) ↔
      (!isBack message && confirms text && turn.refusal.isNone &&
        (store.db.anyClient tenantId phone).toOption.isNone) = false := by
  have hkind : kindOf store.db tenantId (normalizePhone data.temp.targetPhone) = .active := by
    unfold kindOf
    rw [hphone, hactive]
    rfl
  unfold handleCtxActiveDeactivateConfirm
  dsimp only
  split
  · next hback =>
    rw [hback]
    exact iff_of_true (after_backToMenu rfl hkind (fun _ _ => rfl) (by decide)) rfl
  next hback =>
  rw [Bool.not_eq_true] at hback
  rw [hback]
  split
  · next hconfirms =>
    rw [Bool.not_eq_true'] at hconfirms
    rw [hconfirms]
    exact iff_of_true
      (after_shown hctx rfl (hphone₀ ▸ hkind) (hstep ▸ fun _ _ => rfl) (by decide)) rfl
  next hconfirms =>
  rw [Bool.not_eq_true', Bool.not_eq_false] at hconfirms
  rw [hconfirms, hclient]
  dsimp only
  split
  · next refusal hrefused =>
    refine iff_of_true after_clear ?_
    cases hturn : turn.refusal with
    | some refusal => rfl
    | none =>
      unfold Database.deactivateClient Database.changeClient at hrefused
      rw [getClient_of_holders (mem_of_active hactive).1, hturn] at hrefused
      cases hrefused
  · next hnone =>
    obtain ⟨-, hget, -⟩ | ⟨c, -, hfound, -⟩ := changeClient_eq_ok hnone
    · rw [getClient_of_holders (mem_of_active hactive).1] at hget
      cases hget
    · cases hfound
  · next updated db hdone =>
    have hturn : turn.refusal = none := by
      cases hturn : turn.refusal with
      | none => rfl
      | some refusal =>
        unfold Database.deactivateClient Database.changeClient at hdone
        rw [getClient_of_holders (mem_of_active hactive).1, hturn] at hdone
        cases hdone
    have hkind' := kind_deactivate hactive hdone
    rw [← hphone] at hkind'
    rw [hturn, anyClient_eq]
    match hrows : holders store.db tenantId phone with
    | [] =>
      have hmem := (mem_of_active hactive).1
      rw [hrows] at hmem
      cases hmem
    | [_] =>
      rw [hrows] at hkind'
      exact iff_of_true (after_shown rfl rfl hkind' (fun _ _ => rfl) (by decide)) rfl
    | _ :: _ :: _ =>
      rw [hrows, if_neg (by simp)] at hkind'
      refine iff_of_false (after_misled rfl rfl hkind' fun _ _ => rfl) ?_
      simp [scalarOneOrNone, Except.toOption]

/-! ## An inactive client -/

section
variable {phone : String} (hphone : normalizePhone data.temp.targetPhone = some phone)
  (hinactive : registration store.db tenantId (some phone) = .inactive client)
include hphone hinactive

theorem after_reactivate :
    Understood lib tenantId
      (after tenantId (reactivateContextClient tenantId turn store data client)) := by
  unfold reactivateContextClient
  dsimp only
  split
  · exact after_clear
  · exact after_clear
  · exact after_clear
  · next hdone =>
    have hkind := kind_activate hinactive hdone
    rw [← hphone] at hkind
    exact after_shown rfl rfl hkind (fun _ _ => rfl) (by decide)

theorem kind_of_inactive :
    kindOf store.db tenantId (normalizePhone data.temp.targetPhone) = .inactive := by
  unfold kindOf
  rw [hphone, hinactive]
  rfl

theorem after_inactiveClientMenu (hstep : data.step = .inactiveMenu) :
    Understood lib tenantId
      (after tenantId (handleCtxInactiveClientMenu tenantId turn store data client message)) := by
  have hkind := kind_of_inactive hphone hinactive
  unfold handleCtxInactiveClientMenu
  dsimp only
  split
  · exact after_shown rfl rfl hkind (fun _ _ => rfl) (by decide)
  split
  · exact after_shown rfl rfl hkind (fun _ _ => rfl) (by decide)
  split
  · exact after_reactivate hphone hinactive
  split
  · exact after_shown rfl rfl hkind (fun _ _ => rfl) (by decide)
  · exact after_shown rfl rfl hkind (hstep ▸ fun _ _ => rfl) (by decide)

theorem after_inactiveDetail (hstep : data.step = .inactiveDetail) :
    Understood lib tenantId
      (after tenantId (handleCtxInactiveDetail tenantId turn store data client message)) := by
  have hkind := kind_of_inactive hphone hinactive
  unfold handleCtxInactiveDetail
  dsimp only
  split
  · exact after_shown rfl rfl hkind (fun _ _ => rfl) (by decide)
  split
  · exact after_shown rfl rfl hkind (fun _ _ => rfl) (by decide)
  split
  · exact after_reactivate hphone hinactive
  split
  · exact after_shown rfl rfl hkind (fun _ _ => rfl) (by decide)
  · exact after_shown rfl rfl hkind (hstep ▸ fun _ _ => rfl) (by decide)

end

theorem render_answers {db : Database} {phone : String} {menu : List Text} {clientId : Option Nat}
    (hphone : normalizePhone (some phone) = some phone)
    (h : renderInitialContextMenu tenantId db (some phone) = .ok (menu, clientId)) :
    ∃ screen, screenOf menu = some screen ∧ screen ≠ .postCreate ∧ ∀ subscribing,
      (route .menu (kindOf db tenantId (some phone)) false
        (db.findActive tenantId (some phone) none).isSome subscribing).answers
          (kindOf db tenantId (some phone)) screen = true := by
  unfold renderInitialContextMenu at h
  rw [truthy_of_normalizePhone hphone] at h
  dsimp only at h
  unfold kindOf
  rw [registration_eq]
  rw [anyClient_eq] at h
  match hrows : holders db tenantId phone with
  | [] =>
    rw [hrows] at h
    simp only [scalarOneOrNone, bind, Except.bind, Option.isSome_some, if_true] at h
    cases hblock : db.findActive tenantId (some phone) none with
    | none =>
      rw [hblock] at h
      cases h
      exact ⟨.unregisteredMenu, rfl, by decide, fun _ => rfl⟩
    | some block =>
      rw [hblock] at h
      cases h
      exact ⟨.blockedMenu, rfl, by decide, fun _ => rfl⟩
  | [client] =>
    rw [hrows] at h
    simp only [scalarOneOrNone, bind, Except.bind] at h
    cases hactive : client.isActive with
    | true =>
      rw [hactive] at h
      cases h
      rw [classify_eq_active.mpr (by simp [hactive] : [client].filter (·.isActive) = [client])]
      exact ⟨.activeMenu, rfl, by decide, fun _ => rfl⟩
    | false =>
      rw [hactive] at h
      cases h
      rw [classify_eq_inactive.mpr ⟨rfl, hactive⟩]
      exact ⟨.inactiveMenu, rfl, by decide, fun _ => rfl⟩
  | _ :: _ :: _ =>
    rw [hrows] at h
    cases h

theorem after_inactiveDeleteConfirm {data₀ : Context} (hctx : store.context = some data₀)
    (hstep : data₀.step = .inactiveDeleteConfirm) {phone : String}
    (hphone : normalizePhone data.temp.targetPhone = some phone)
    (hkept : data.temp.targetPhone = some phone)
    (hphone₀ : data₀.temp.targetPhone = data.temp.targetPhone)
    (hinactive : registration store.db tenantId (some phone) = .inactive client) :
    Understood lib tenantId (after tenantId
      (handleCtxInactiveDeleteConfirm tenantId turn store data text message)) := by
  have hkind := kind_of_inactive hphone hinactive
  unfold handleCtxInactiveDeleteConfirm
  dsimp only
  split
  · exact after_backToMenu rfl hkind (fun _ _ => rfl) (by decide)
  split
  · exact after_shown hctx rfl (hphone₀ ▸ hkind) (hstep ▸ fun _ _ => rfl) (by decide)
  split
  · exact understood_of_prompt rfl
  split
  · exact after_clear
  · exact after_clear
  · exact after_clear
  split
  · exact understood_of_prompt rfl
  · next menu found hmenu =>
    rw [hkept] at hmenu
    obtain ⟨screen, hscreen, hother, hroute⟩ := render_answers (hkept ▸ hphone) hmenu
    have hshown : screenOf (.inactiveDeleteSuccess :: menu) = some screen := by
      unfold screenOf at hscreen ⊢
      rw [List.getLast?_cons]
      cases hlast : menu.getLast? with
      | none =>
        rw [hlast] at hscreen
        cases hscreen
      | some last =>
        rw [hlast] at hscreen
        exact hscreen
    refine (after_response rfl hshown).mpr ⟨?_, fun h => absurd h hother⟩
    unfold targetOf targetBlocked
    dsimp only [Store.save]
    rw [hphone]
    exact hroute _

/-! ## After a creation -/

theorem kindOf_congr {db db' : Database} {phone : Option String} (h : db'.clients = db.clients) :
    kindOf db' tenantId phone = kindOf db tenantId phone :=
  congrArg Registration.kind (registration_congr h)

theorem collected_congr {db db' : Database} {phone : Option String}
    (h : db'.clients = db.clients) :
    collected tenantId db' phone = collected tenantId db phone := by
  unfold collected holders
  rw [h]

theorem unregistered_of_kind {db : Database} {phone : Option String}
    (h : kindOf db tenantId phone = .unregistered) :
    registration db tenantId phone = .unregistered := by
  unfold kindOf at h
  cases hreg : registration db tenantId phone with
  | unregistered => rfl
  | _ =>
    rw [hreg] at h
    cases h

theorem clients_clearIdentity {db : Database} {phone lid : Option String} :
    (db.clearIdentity tenantId phone lid).clients = db.clients := by
  unfold Database.clearIdentity
  split <;> rfl

theorem collected_create {db db' : Database} {refusal : Option Refusal} {tenantExists : Bool}
    {newId : Nat} {payload : Database.ClientCreate} {client : Client} {phone : Option String}
    (h : db.createClient tenantId refusal tenantExists newId payload = .ok (some client, db')) :
    collected tenantId db' phone = findable tenantId db phone client := by
  unfold collected findable
  cases normalizePhone phone with
  | none => rfl
  | some digits => rw [Option.any_some, Option.any_some, holders_create h]

theorem answerable_postCreate {registered : Bool}
    (hkind : target.kind = if registered then .active else .unregistered) :
    Answerable target .postCreateMenu .postCreate ↔
      registered = false ∧ target.collected = true := by
  constructor
  · rintro ⟨hrouted, hacts⟩
    refine ⟨?_, hacts rfl⟩
    by_contra hregistered
    rw [Bool.not_eq_false] at hregistered
    rw [hregistered, if_pos rfl] at hkind
    unfold routeFor at hrouted
    rw [hkind] at hrouted
    cases hrouted
  · rintro ⟨rfl, hcollected⟩
    refine ⟨?_, fun _ => hcollected⟩
    unfold routeFor
    rw [hkind]
    rfl

theorem after_creatingConfirm (hstep : data.step = .creatingConfirm)
    (hkind : kindOf store.db tenantId (normalizePhone data.temp.targetPhone) = .unregistered) :
    Understood lib tenantId
      (after tenantId (handleCtxCreatingConfirm lib tenantId turn store data text)) ↔
      (confirms text && (creation lib tenantId turn store.db data).any fun client =>
        (normalizePhone data.temp.targetPhone).any (phoneMatches · client.phone) ||
          !findable tenantId store.db data.temp.phone client) = false := by
  unfold handleCtxCreatingConfirm
  dsimp only
  split
  · next hconfirms =>
    rw [Bool.not_eq_true'] at hconfirms
    rw [hconfirms]
    exact iff_of_true (after_shown rfl rfl hkind (hstep ▸ fun _ _ => rfl) (by decide)) rfl
  next hconfirms =>
  rw [Bool.not_eq_true', Bool.not_eq_false] at hconfirms
  rw [hconfirms, Bool.true_and]
  unfold creation
  cases hpayload : creationPayload lib data.temp with
  | none => exact iff_of_true (understood_of_prompt rfl) rfl
  | some payload =>
    dsimp only
    cases hcreate : store.db.createClient tenantId turn.refusal turn.tenantExists turn.newId
        payload with
    | error refusal => cases refusal <;> exact iff_of_true after_clear rfl
    | ok created =>
      obtain ⟨found, db⟩ := created
      cases found with
      | none => exact iff_of_true after_clear rfl
      | some client =>
        refine (after_response rfl rfl).trans ?_
        rw [Option.any_some, Bool.or_eq_false_iff, Bool.not_eq_false']
        have hclients : (if turn.clears then
            db.clearIdentity tenantId (normalizePhone data.temp.targetPhone) none
          else db).clients = db.clients := by
          split
          · exact clients_clearIdentity
          · rfl
        have hkind' : kindOf db tenantId (normalizePhone data.temp.targetPhone) =
            if (normalizePhone data.temp.targetPhone).any (phoneMatches · client.phone) then
              .active
            else .unregistered := by
          cases hphone : normalizePhone data.temp.targetPhone with
          | none => rfl
          | some phone =>
            rw [hphone] at hkind
            exact kind_create (unregistered_of_kind hkind) hcreate
        rw [← kindOf_congr hclients] at hkind'
        have hcollected : _ = findable tenantId store.db data.temp.phone client :=
          (collected_congr hclients).trans (collected_create hcreate)
        generalize (if turn.clears then
            db.clearIdentity tenantId (normalizePhone data.temp.targetPhone) none
          else db) = db' at hkind' hcollected
        rw [← hcollected]
        exact answerable_postCreate hkind'

theorem after_postCreateMenu (hstep : data.step = .postCreateMenu)
    (hkind : kindOf store.db tenantId (normalizePhone data.temp.targetPhone) = .unregistered)
    (hcancel : isCancel message = false) :
    Understood lib tenantId (after tenantId (handlePostCreateMenu tenantId store data message)) ↔
      (if message = "1" then
        match (normalizePhone data.temp.phone).elim (.ok none) (store.db.activeClient tenantId) with
        | .error _ => false
        | .ok none => true
        | .ok (some _) => collected tenantId store.db data.temp.phone
      else !collected tenantId store.db data.temp.phone) = false := by
  have hinvalid : Understood lib tenantId (after tenantId
      (.response (say data.temp.adminJid [.postCreateInvalidOption]), store.keep data)) ↔
      collected tenantId store.db data.temp.phone = true := by
    refine (after_response rfl rfl).trans ?_
    rw [hstep]
    have hkind' : kindOf store.db tenantId (normalizePhone data.temp.targetPhone) =
        if false then .active else .unregistered := hkind
    exact (answerable_postCreate hkind').trans (and_iff_right rfl)
  by_cases hone : message = "1"
  · subst hone
    rw [if_pos rfl]
    cases hcollected : collected tenantId store.db data.temp.phone with
    | true =>
      obtain ⟨clientId, hmenu⟩ := postCreate_menu hcollected rfl
      rw [hmenu]
      refine iff_of_false (after_misled rfl rfl hkind fun _ _ => rfl) ?_
      obtain ⟨raw, digits, client, hraw, hdigits, hrows, hactive⟩ := collected_eq_true.mp hcollected
      rw [hraw, hdigits, Option.elim_some, activeClient_eq, hrows, List.filter_cons, if_pos hactive]
      exact Bool.true_eq_false.mp
    | false =>
      rw [hcollected] at hinvalid
      unfold handlePostCreateMenu
      dsimp only
      rw [if_pos rfl]
      rcases hfound : (normalizePhone data.temp.phone).elim (.ok none)
        (store.db.activeClient tenantId) with several | none | client
      · rw [hfound]
        exact iff_of_true (understood_of_prompt rfl) rfl
      · rw [hfound, if_neg (by decide)]
        exact hinvalid.trans (by decide)
      · rw [hfound, render_of_not_collected hcollected hfound]
        exact iff_of_true (understood_of_prompt rfl) rfl
  · unfold handlePostCreateMenu
    dsimp only
    rw [if_neg hone, if_neg hone, hcancel, Bool.not_eq_false']
    exact hinvalid

/-! ## Messages -/

theorem registration_of_active {phone : Option String}
    (h : kindOf store.db tenantId phone = .active) : ∃ digits client, phone = some digits ∧
      registration store.db tenantId (some digits) = .active client := by
  unfold kindOf at h
  cases phone with
  | none => cases h
  | some digits =>
    cases hreg : registration store.db tenantId (some digits) with
    | active client => exact ⟨digits, client, rfl, hreg⟩
    | _ =>
      rw [hreg] at h
      cases h

theorem registration_of_inactive {phone : Option String}
    (h : kindOf store.db tenantId phone = .inactive) : ∃ digits client, phone = some digits ∧
      registration store.db tenantId (some digits) = .inactive client := by
  unfold kindOf at h
  cases phone with
  | none => cases h
  | some digits =>
    cases hreg : registration store.db tenantId (some digits) with
    | inactive client => exact ⟨digits, client, rfl, hreg⟩
    | _ =>
      rw [hreg] at h
      cases h

theorem kind_of_found {db : Database} {phone : Option String} {client : Client}
    (h : phone.elim (.ok none) (db.activeClient tenantId) = .ok (some client)) :
    kindOf db tenantId phone = .active := by
  cases phone with
  | none => cases h
  | some digits =>
    unfold kindOf registration
    rw [Option.elim_some] at h
    dsimp only
    rw [h]
    rfl

/-- A record keeps the phone of its target in its normal form, if it has one. -/
def Kept (data : Context) : Prop :=
  ∀ phone, normalizePhone data.temp.targetPhone = some phone → data.temp.targetPhone = some phone

theorem after_handler {handler : Handler} (hctx : store.context = some data) (hkept : Kept data)
    (hroute : routeOf tenantId store data text = .handler handler) :
    Understood lib tenantId
      (after tenantId (handleActiveClientContext lib tenantId turn store text)) ↔
      misleadsAt lib tenantId turn store data text handler = false := by
  obtain ⟨hsteps, hkind, hcancel, -⟩ := of_route hroute
  rw [handle_of_handler hctx hroute]
  cases hof : handlerKind handler with
  | unregistered =>
    rw [hof] at hkind
    rw [clientOf_unregistered hkind, withClientId_none]
    cases handler with
    | unblockedMenu => exact iff_of_true (after_unblockedMenu hkind) rfl
    | blockedMenu => exact iff_of_true after_blockedMenu rfl
    | creatingFirst => exact iff_of_true (after_creatingFirst hkind) rfl
    | creatingPhone =>
      exact iff_of_true (after_creatingPhone hkind (List.mem_singleton.mp hsteps)) rfl
    | creatingName =>
      exact iff_of_true (after_creatingName hkind (List.mem_singleton.mp hsteps)) rfl
    | creatingUsername =>
      exact iff_of_true (after_creatingUsername hkind (List.mem_singleton.mp hsteps)) rfl
    | creatingPasswordChoice =>
      exact iff_of_true (after_creatingPasswordChoice hkind (List.mem_singleton.mp hsteps)) rfl
    | creatingPasswordManual =>
      exact iff_of_true (after_creatingPasswordManual hkind (List.mem_singleton.mp hsteps)) rfl
    | creatingConfirm =>
      rw [misleadsAt, runHandler]
      exact after_creatingConfirm (List.mem_singleton.mp hsteps) hkind
    | postCreateMenu =>
      rw [misleadsAt, runHandler]
      exact after_postCreateMenu (List.mem_singleton.mp hsteps) hkind hcancel
    | _ => cases hof
  | active =>
    rw [hof] at hkind
    obtain ⟨phone, client, hphone, hactive⟩ := registration_of_active hkind
    rw [hphone, hactive, clientOf]
    have hphone' : normalizePhone (withClientId data (some client)).temp.targetPhone = some phone :=
      hphone
    have hkind' : kindOf store.db tenantId
        (normalizePhone (withClientId data (some client)).temp.targetPhone) = .active := hkind
    have hsteps' : (withClientId data (some client)).step ∈ handlerSteps handler := hsteps
    have hid : (withClientId data (some client)).temp.clientId = some client.id := rfl
    have hselected : (withClientId data (some client)).temp.selectedSubId =
        data.temp.selectedSubId := rfl
    have hextended : (withClientId data (some client)).temp.extendSubId =
        data.temp.extendSubId := rfl
    have htarget : data.temp.targetPhone = (withClientId data (some client)).temp.targetPhone := rfl
    generalize withClientId data (some client) = data' at *
    cases handler with
    | activeClientMenu =>
      rw [runHandler, forClient]
      exact iff_of_true (after_activeClientMenu hkind' (List.mem_singleton.mp hsteps')) rfl
    | activeDetail =>
      rw [runHandler]
      exact iff_of_true (after_activeDetail hkind' (List.mem_singleton.mp hsteps')) rfl
    | activeEditField =>
      rw [runHandler]
      exact iff_of_true
        (after_editField activeEdit_shown hkind' (List.mem_singleton.mp hsteps')) rfl
    | activeEditValue =>
      rw [runHandler]
      exact iff_of_true
        (after_editValue activeEdit_shown hkind' (List.mem_singleton.mp hsteps')) rfl
    | activeDeactivateConfirm =>
      rw [misleadsAt, hphone, Option.any_some, runHandler]
      exact after_activeDeactivateConfirm hctx (List.mem_singleton.mp hsteps) hphone' htarget
        hactive hid
    | activeViewSubscriptions =>
      rw [runHandler, forClient]
      exact iff_of_true (after_activeViewSubscriptions hkind' (List.mem_singleton.mp hsteps')) rfl
    | viewSubscriptionDetail =>
      rw [misleadsAt, runHandler, forClient, ← hselected]
      exact after_viewSubscriptionDetail hkind' (List.mem_singleton.mp hsteps')
    | activeExtendSubscription =>
      rw [misleadsAt, runHandler, forClient, ← hextended]
      exact after_activeExtendSubscription hkind' (List.mem_pair.mp hsteps')
    | activeDeactivateSubscription => exact absurd hsteps List.not_mem_nil
    | _ => cases hof
  | inactive =>
    rw [hof] at hkind
    obtain ⟨phone, client, hphone, hinactive⟩ := registration_of_inactive hkind
    rw [hphone, hinactive, clientOf]
    have hphone' : normalizePhone (withClientId data (some client)).temp.targetPhone = some phone :=
      hphone
    have hkind' : kindOf store.db tenantId
        (normalizePhone (withClientId data (some client)).temp.targetPhone) = .inactive := hkind
    have hsteps' : (withClientId data (some client)).step ∈ handlerSteps handler := hsteps
    have htarget : data.temp.targetPhone = (withClientId data (some client)).temp.targetPhone := rfl
    generalize withClientId data (some client) = data' at *
    cases handler with
    | inactiveClientMenu =>
      rw [runHandler, forClient]
      exact iff_of_true
        (after_inactiveClientMenu hphone' hinactive (List.mem_singleton.mp hsteps')) rfl
    | inactiveDetail =>
      rw [runHandler, forClient]
      exact iff_of_true (after_inactiveDetail hphone' hinactive (List.mem_singleton.mp hsteps')) rfl
    | inactiveEditField =>
      rw [runHandler]
      exact iff_of_true
        (after_editField inactiveEdit_shown hkind' (List.mem_singleton.mp hsteps')) rfl
    | inactiveEditValue =>
      rw [runHandler]
      exact iff_of_true
        (after_editValue inactiveEdit_shown hkind' (List.mem_singleton.mp hsteps')) rfl
    | inactiveDeleteConfirm =>
      rw [runHandler]
      exact iff_of_true (after_inactiveDeleteConfirm hctx (List.mem_singleton.mp hsteps) hphone'
        (htarget ▸ hkept phone hphone) htarget hinactive) rfl
    | _ => cases hof
  | ambiguous => cases handler <;> cases hof

end AnswersLemmas

open AnswersLemmas

/-- Exactly the messages of the list lead to a screen whose answer is not understood. -/
theorem understood_message (hctx : store.context = some data) (hkept : Kept data) :
    Understood lib tenantId
      (after tenantId (handleActiveClientContext lib tenantId turn store text)) ↔
      misleads lib tenantId store turn text = false := by
  unfold misleads
  rw [hctx]
  dsimp only
  cases hroute : routeOf tenantId store data text with
  | handler handler => exact after_handler hctx hkept hroute
  | reset first handler =>
    refine iff_of_true ?_ rfl
    unfold handleActiveClientContext
    rw [hctx]
    dsimp only
    rw [hroute]
    dsimp only
    obtain ⟨hkind, rfl, rfl⟩ | ⟨hkind, rfl, rfl⟩ := of_route_reset hroute
    · obtain ⟨phone, client, hphone, hactive⟩ := registration_of_active hkind
      rw [hphone, hactive, clientOf, runHandler, forClient]
      refine after_activeClientMenu ?_ rfl
      exact hkind
    · obtain ⟨phone, client, hphone, hinactive⟩ := registration_of_inactive hkind
      rw [hphone, hinactive, clientOf, runHandler, forClient]
      exact after_inactiveClientMenu (show normalizePhone _ = some phone from hphone) hinactive rfl
  | finished =>
    refine iff_of_true ?_ rfl
    unfold handleActiveClientContext
    rw [hctx]
    dsimp only
    rw [hroute]
    dsimp only
    split
    · exact understood_of_prompt rfl
    · exact understood_of_prompt rfl
    · next client hfound =>
      refine after_activeClientMenu ?_ rfl
      exact kind_of_found hfound
  | close | clear | raise | console =>
    refine iff_of_true ?_ rfl
    unfold handleActiveClientContext
    rw [hctx]
    dsimp only
    rw [hroute]
    exact understood_of_prompt rfl

/-! ## Runs -/

namespace AnswersLemmas

structure Contact where
  targetPhone : Option String
  targetLid : Option String
  targetJid : Option String
  adminJid : String

def contactOf (data : Context) : Contact :=
  ⟨data.temp.targetPhone, data.temp.targetLid, data.temp.targetJid, data.temp.adminJid⟩

def About (contact : Contact) (store : Store) : Prop :=
  ∀ data, store.context = some data → contactOf data = contact

variable {contact : Contact}

theorem about_save (hcontext : store.context = some data) (h : contactOf data = contact) :
    About contact store := by
  rintro data' hdata
  rw [← Option.some.inj (hcontext.symm.trans hdata)]
  exact h

theorem about_clear : About contact store.clear := by
  rintro data' hdata
  cases hdata

section
variable (hstore : About contact store) (hdata : contactOf data = contact)
include hdata

theorem about_creatingFirst : About contact (saved store (handleCtxCreatingFirst data)).2 := by
  unfold handleCtxCreatingFirst
  split <;> exact about_save rfl hdata

theorem about_creatingPhone :
    About contact (saved store (handleCtxCreatingPhone lib data text)).2 := by
  unfold handleCtxCreatingPhone
  split <;> exact about_save rfl hdata

theorem about_creatingName : About contact (saved store (handleCtxCreatingName lib data text)).2 := by
  unfold handleCtxCreatingName
  repeat' split
  all_goals exact about_save rfl hdata

theorem about_creatingUsername :
    About contact (saved store (handleCtxCreatingUsername lib data text)).2 := by
  unfold handleCtxCreatingUsername
  repeat' split
  all_goals exact about_save rfl hdata

theorem about_creatingPasswordChoice :
    About contact (saved store (handleCtxCreatingPasswordChoice turn data text)).2 := by
  unfold handleCtxCreatingPasswordChoice
  repeat' split
  all_goals exact about_save rfl hdata

theorem about_creatingPasswordManual :
    About contact (saved store (handleCtxCreatingPasswordManual data text)).2 := by
  unfold handleCtxCreatingPasswordManual
  split <;> exact about_save rfl hdata

include hstore

theorem about_creatingConfirm :
    About contact (handleCtxCreatingConfirm lib tenantId turn store data text).2 := by
  unfold handleCtxCreatingConfirm
  dsimp only
  repeat' split
  all_goals first | exact hstore | exact about_clear | exact about_save rfl hdata

theorem about_postCreateMenu : About contact (handlePostCreateMenu tenantId store data text).2 := by
  unfold handlePostCreateMenu
  dsimp only
  repeat' split
  all_goals first | exact hstore | exact about_clear | exact about_save rfl hdata

theorem about_unblockedMenu :
    About contact (handleCtxUnblockedMenu tenantId turn store data text).2 := by
  unfold handleCtxUnblockedMenu
  split
  · exact about_save rfl (by split <;> exact hdata)
  · repeat' split
    all_goals first | exact hstore | exact about_clear | exact about_save rfl hdata

omit hstore in
theorem about_blockedMenu : About contact (handleCtxBlockedMenu tenantId store data text).2 := by
  unfold handleCtxBlockedMenu
  split
  · exact about_clear
  split
  · exact about_clear
  · exact about_save rfl hdata

theorem about_activeViewSubscriptions :
    About contact (handleCtxActiveViewSubscriptions tenantId store data client text).2 := by
  unfold handleCtxActiveViewSubscriptions startContextSubscription
  dsimp only
  repeat' split
  all_goals first | exact hstore | exact about_clear | exact about_save rfl hdata

omit hstore in
theorem about_viewSubscriptionDetail :
    About contact (handleCtxViewSubscriptionDetail tenantId store data client text).2 := by
  unfold handleCtxViewSubscriptionDetail
  dsimp only
  repeat' split
  all_goals exact about_save rfl hdata

theorem about_activeExtendSubscription :
    About contact
      (handleCtxActiveExtendSubscription lib tenantId turn store data client text).2 := by
  unfold handleCtxActiveExtendSubscription
  dsimp only
  repeat' split
  all_goals first | exact hstore | exact about_save rfl hdata

theorem about_activeDeactivateSubscription :
    About contact
      (handleCtxActiveDeactivateSubscription tenantId turn store data client text).2 := by
  unfold handleCtxActiveDeactivateSubscription
  dsimp only
  repeat' split
  all_goals first | exact hstore | exact about_save rfl hdata

omit hstore in
theorem about_activeClientMenu :
    About contact (handleCtxActiveClientMenu tenantId store data client text).2 := by
  unfold handleCtxActiveClientMenu
  dsimp only
  split
  · exact about_save rfl hdata
  split
  · exact about_save rfl hdata
  split
  · refine about_activeViewSubscriptions (about_save rfl ?_) ?_
    · exact hdata
    · exact hdata
  · repeat' split
    all_goals exact about_save rfl hdata

omit hstore in
theorem about_activeDetail : About contact (handleCtxActiveDetail store data text).2 := by
  unfold handleCtxActiveDetail
  dsimp only
  repeat' split
  all_goals exact about_save rfl hdata

omit hstore in
theorem about_editField {steps : EditSteps} : About contact (editField store data steps text).2 := by
  unfold editField
  dsimp only
  repeat' split
  all_goals exact about_save rfl hdata

theorem about_editValue {steps : EditSteps} :
    About contact (editValue lib tenantId turn store data steps text message).2 := by
  unfold editValue
  dsimp only
  repeat' split
  all_goals first | exact hstore | exact about_clear | exact about_save rfl hdata

omit hstore in
theorem about_backToMenu {first : Step} {menu : List Text} :
    About contact (backToMenu tenantId turn store data first menu).2 := by
  unfold backToMenu
  dsimp only
  repeat' split
  all_goals first | exact about_clear | exact about_save rfl hdata

theorem about_activeDeactivateConfirm :
    About contact (handleCtxActiveDeactivateConfirm tenantId turn store data text message).2 := by
  unfold handleCtxActiveDeactivateConfirm
  dsimp only
  split
  · exact about_backToMenu hdata
  · repeat' split
    all_goals first | exact hstore | exact about_clear | exact about_save rfl hdata

omit hstore in
theorem about_reactivate :
    About contact (reactivateContextClient tenantId turn store data client).2 := by
  unfold reactivateContextClient
  dsimp only
  split
  · exact about_clear
  · exact about_clear
  · exact about_clear
  · exact about_save rfl hdata

omit hstore in
theorem about_inactiveClientMenu :
    About contact (handleCtxInactiveClientMenu tenantId turn store data client text).2 := by
  unfold handleCtxInactiveClientMenu
  dsimp only
  split
  · exact about_save rfl hdata
  split
  · exact about_save rfl hdata
  split
  · exact about_reactivate hdata
  split
  · exact about_save rfl hdata
  · exact about_save rfl hdata

omit hstore in
theorem about_inactiveDetail :
    About contact (handleCtxInactiveDetail tenantId turn store data client text).2 := by
  unfold handleCtxInactiveDetail
  dsimp only
  split
  · exact about_save rfl hdata
  split
  · exact about_save rfl hdata
  split
  · exact about_reactivate hdata
  split
  · exact about_save rfl hdata
  · exact about_save rfl hdata

theorem about_inactiveDeleteConfirm :
    About contact (handleCtxInactiveDeleteConfirm tenantId turn store data text message).2 := by
  unfold handleCtxInactiveDeleteConfirm
  dsimp only
  split
  · exact about_backToMenu hdata
  · repeat' split
    all_goals first | exact hstore | exact about_clear | exact about_save rfl hdata

omit hdata in
theorem about_forClient {found : Option Client} {handle : Client → Outcome × Store}
    (h : ∀ client, About contact (handle client).2) :
    About contact (forClient store found handle).2 := by
  cases found with
  | none => exact hstore
  | some client => exact h client

theorem about_runHandler {found : Option Client} {handler : Handler} :
    About contact (runHandler lib tenantId turn store data found text handler).2 := by
  unfold runHandler
  cases handler with
  | unblockedMenu => exact about_unblockedMenu hstore hdata
  | blockedMenu => exact about_blockedMenu hdata
  | creatingFirst => exact about_creatingFirst hdata
  | creatingPhone => exact about_creatingPhone hdata
  | creatingName => exact about_creatingName hdata
  | creatingUsername => exact about_creatingUsername hdata
  | creatingPasswordChoice => exact about_creatingPasswordChoice hdata
  | creatingPasswordManual => exact about_creatingPasswordManual hdata
  | creatingConfirm => exact about_creatingConfirm hstore hdata
  | postCreateMenu => exact about_postCreateMenu hstore hdata
  | activeDetail => exact about_activeDetail hdata
  | activeEditField => exact about_editField hdata
  | activeEditValue => exact about_editValue hstore hdata
  | activeDeactivateConfirm => exact about_activeDeactivateConfirm hstore hdata
  | inactiveEditField => exact about_editField hdata
  | inactiveEditValue => exact about_editValue hstore hdata
  | inactiveDeleteConfirm => exact about_inactiveDeleteConfirm hstore hdata
  | activeClientMenu =>
    exact about_forClient hstore fun client => about_activeClientMenu hdata
  | activeViewSubscriptions =>
    exact about_forClient hstore fun client => about_activeViewSubscriptions hstore hdata
  | viewSubscriptionDetail =>
    exact about_forClient hstore fun client => about_viewSubscriptionDetail hdata
  | activeExtendSubscription =>
    exact about_forClient hstore fun client => about_activeExtendSubscription hstore hdata
  | activeDeactivateSubscription =>
    exact about_forClient hstore fun client => about_activeDeactivateSubscription hstore hdata
  | inactiveClientMenu =>
    exact about_forClient hstore fun client => about_inactiveClientMenu hdata
  | inactiveDetail =>
    exact about_forClient hstore fun client => about_inactiveDetail hdata

end

theorem contact_withClientId {found : Option Client} :
    contactOf (withClientId data found) = contactOf data := by
  cases found <;> rfl

theorem about_message (hctx : store.context = some data) :
    About (contactOf data)
      (handleActiveClientContext lib tenantId turn store text).2 := by
  have hstore : About (contactOf data) store := by
    intro data' hdata
    rw [← Option.some.inj (hctx.symm.trans hdata)]
  have hclient : ∀ found, contactOf (withClientId data found) = contactOf data :=
    fun found => contact_withClientId
  unfold handleActiveClientContext
  rw [hctx]
  dsimp only
  split
  · exact about_runHandler hstore (hclient _)
  · refine about_runHandler (about_save rfl ?_) ?_
    · exact hclient _
    · exact hclient _
  · exact hstore
  · split
    · exact about_save rfl rfl
    · exact about_save rfl rfl
    · refine about_activeClientMenu ?_
      rfl
  · exact about_clear
  · exact about_clear
  · exact hstore

/-! ## The first screen -/

theorem keptPhone_of_some {targetPhone : Option String} {digits : String}
    (h : normalizePhone targetPhone = some digits) : keptPhone targetPhone = some digits := by
  unfold keptPhone
  rw [h]
  rfl

theorem keptPhone_of_none {targetPhone : Option String} (h : normalizePhone targetPhone = none) :
    keptPhone targetPhone = targetPhone := by
  unfold keptPhone
  rw [h]
  rfl

theorem kept_opened {targetPhone targetLid targetJid : Option String} {adminJid : String}
    {clientId : Option Nat} : Kept (opened targetPhone targetLid targetJid adminJid clientId) := by
  intro phone h
  change normalizePhone (keptPhone targetPhone) = some phone at h
  show keptPhone targetPhone = some phone
  cases hnorm : normalizePhone targetPhone with
  | none =>
    rw [keptPhone_of_none hnorm, hnorm] at h
    cases h
  | some digits =>
    rw [keptPhone_of_some hnorm, normalizePhone_idem hnorm] at h
    rw [keptPhone_of_some hnorm, h]

theorem render_of_none {db : Database} {targetPhone : Option String} {menu : List Text}
    {clientId : Option Nat} (hnorm : normalizePhone targetPhone = none)
    (h : renderInitialContextMenu tenantId db targetPhone = .ok (menu, clientId)) :
    ∃ screen, screenOf menu = some screen ∧ screen ≠ .postCreate ∧
      (screen = .unregisteredMenu ↔ misopens tenantId db targetPhone = false) := by
  unfold misopens
  rw [hnorm, Option.isNone_none, Bool.true_and]
  unfold renderInitialContextMenu at h
  cases htruthy : truthy targetPhone with
  | none =>
    have hblock : db.findActive tenantId targetPhone none = none := by
      unfold Database.findActive Database.identityClause
      rw [htruthy]
      rfl
    rw [htruthy, hblock] at h
    cases h
    exact ⟨.unregisteredMenu, rfl, by decide, iff_of_true rfl rfl⟩
  | some phone =>
    obtain ⟨rfl, -⟩ := Option.filter_eq_some_iff.mp htruthy
    rw [htruthy] at h
    rw [Option.any_some]
    dsimp only at h
    cases hany : db.anyClient tenantId phone with
    | error e =>
      rw [hany] at h
      cases h
    | ok found =>
      rw [hany] at h
      cases found with
      | some client =>
        cases hactive : client.isActive with
        | true =>
          simp only [bind, Except.bind, hactive] at h
          cases h
          exact ⟨.activeMenu, rfl, by decide, iff_of_false (by decide) fun h => by cases h⟩
        | false =>
          simp only [bind, Except.bind, hactive] at h
          cases h
          exact ⟨.inactiveMenu, rfl, by decide, iff_of_false (by decide) fun h => by cases h⟩
      | none =>
        cases hblock : db.findActive tenantId (some phone) none with
        | some block =>
          simp only [bind, Except.bind, hblock] at h
          cases h
          exact ⟨.blockedMenu, rfl, by decide, iff_of_false (by decide) fun h => by cases h⟩
        | none =>
          simp only [bind, Except.bind, hblock] at h
          cases h
          exact ⟨.unregisteredMenu, rfl, by decide, iff_of_true rfl rfl⟩

theorem misopens_of_raised {db : Database} {targetPhone : Option String} {e : Multiple}
    (h : renderInitialContextMenu tenantId db targetPhone = .error e) :
    misopens tenantId db targetPhone = false := by
  unfold misopens
  refine Bool.and_eq_false_iff.mpr (Or.inr ?_)
  unfold renderInitialContextMenu at h
  cases htruthy : truthy targetPhone with
  | none => rfl
  | some phone =>
    rw [htruthy] at h
    rw [Option.any_some]
    dsimp only at h
    cases hany : db.anyClient tenantId phone with
    | error e => rfl
    | ok found =>
      rw [hany] at h
      cases found with
      | some client =>
        simp only [bind, Except.bind] at h
        cases h
      | none =>
        simp only [bind, Except.bind] at h
        split at h <;> cases h

theorem answerable_opened {targetPhone targetLid targetJid : Option String} {adminJid : String}
    {clientId : Option Nat} (response : Response) (hnorm : normalizePhone targetPhone = none)
    (hscreen : screenOf response.reply = some screen) (hother : screen ≠ .postCreate) :
    Understood lib tenantId (after tenantId (.response response,
      store.save (opened targetPhone targetLid targetJid adminJid clientId))) ↔
      screen = .unregisteredMenu := by
  have htarget : targetOf tenantId (store.save (opened targetPhone targetLid targetJid adminJid
      clientId)) (opened targetPhone targetLid targetJid adminJid clientId) =
      ⟨.unregistered, false, subscribing store, collected tenantId store.db none⟩ := by
    unfold targetOf targetBlocked opened
    rw [keptPhone_of_none hnorm, hnorm]
    rfl
  refine (after_response rfl hscreen).trans ?_
  rw [htarget]
  constructor
  · rintro ⟨hrouted, -⟩
    cases screen <;> first | rfl | cases hrouted
  · rintro rfl
    exact ⟨rfl, fun h => by cases h⟩

theorem understood_start {s s' : State} {targetPhone targetLid targetJid : Option String}
    {adminJid : String} (hs : Understood lib tenantId s)
    (h : step lib tenantId s (.start targetPhone targetLid targetJid adminJid) = some s') :
    Understood lib tenantId s' ↔ misopens tenantId s.store.db targetPhone = false := by
  unfold step at h
  dsimp only at h
  split at h
  · cases h
  cases hnorm : normalizePhone targetPhone with
  | none =>
    rw [keptPhone_of_none hnorm] at h
    split at h
    · next hraised =>
      cases h
      exact iff_of_true hs (misopens_of_raised hraised)
    · next menu clientId hmenu =>
      cases h
      obtain ⟨screen, hscreen, hother, hiff⟩ := render_of_none hnorm hmenu
      exact (answerable_opened (say adminJid menu) hnorm hscreen hother).trans hiff
  | some digits =>
    have hopens : misopens tenantId s.store.db targetPhone = false := by
      unfold misopens
      rw [hnorm]
      rfl
    refine iff_of_true ?_ hopens
    rw [keptPhone_of_some hnorm] at h
    split at h
    · cases h
      exact hs
    · next menu clientId hmenu =>
      cases h
      have hidem := normalizePhone_idem hnorm
      obtain ⟨screen, hscreen, hother, hroute⟩ := render_answers hidem hmenu
      show Understood lib tenantId (after tenantId (.response (say adminJid menu), _))
      refine (after_response rfl hscreen).mpr ⟨?_, fun h => absurd h hother⟩
      unfold targetOf targetBlocked opened
      dsimp only [Store.save]
      rw [keptPhone_of_some hnorm, hidem]
      exact hroute _

/-- The answer is understood, and the record is kept. -/
structure Sound (lib : Library) (tenantId : Nat) (s : State) : Prop where
  understood : Understood lib tenantId s
  kept : ∀ data, s.store.context = some data → Kept data

theorem store_after {result : Outcome × Store} : (after tenantId result).store = result.2 := by
  obtain ⟨outcome, store⟩ := result
  cases outcome <;> rfl

theorem understood_step {s s' : State} {a : Action} (hs : Sound lib tenantId s)
    (h : step lib tenantId s a = some s') :
    Understood lib tenantId s' ↔ misled lib tenantId s a = false := by
  cases a with
  | start targetPhone targetLid targetJid adminJid => exact understood_start hs.understood h
  | message turn text =>
    cases h
    cases hctx : s.store.context with
    | none =>
      have hquiet : handleActiveClientContext lib tenantId turn s.store text =
          (.fallThrough, s.store) := by
        unfold handleActiveClientContext
        rw [hctx]
      rw [hquiet]
      refine iff_of_true (understood_of_prompt rfl) ?_
      unfold misled misleads
      dsimp only
      rw [hctx]
    | some data => exact understood_message hctx (hs.kept data hctx)
  | expire =>
    cases h
    exact iff_of_true (understood_of_prompt rfl) rfl
  | elsewhere db session =>
    cases h
    exact iff_of_true hs.understood rfl

theorem kept_step {s s' : State} {a : Action} (hs : Sound lib tenantId s)
    (h : step lib tenantId s a = some s') {data : Context} (hdata : s'.store.context = some data) :
    Kept data := by
  cases a with
  | start targetPhone targetLid targetJid adminJid =>
    unfold step at h
    dsimp only at h
    split at h
    · cases h
    split at h
    · cases h
      exact hs.kept data hdata
    · cases h
      cases hdata
      exact kept_opened
  | message turn text =>
    cases h
    rw [store_after] at hdata
    cases hctx : s.store.context with
    | none =>
      unfold handleActiveClientContext at hdata
      rw [hctx] at hdata
      exact hs.kept data hdata
    | some data₀ =>
      have habout : data.temp.targetPhone = data₀.temp.targetPhone :=
        congrArg Contact.targetPhone (about_message hctx data hdata)
      have hkept := hs.kept data₀ hctx
      unfold Kept at hkept ⊢
      rw [habout]
      exact hkept
  | expire =>
    cases h
    cases hdata
  | elsewhere db session =>
    cases h
    exact hs.kept data hdata

theorem sound_of_reaches {db : Database} {session : Option AdminSession} {s : State}
    (h : Reaches (step lib tenantId) (fun s a => misled lib tenantId s a = false)
      ⟨⟨db, none, session, 0⟩, none⟩ s) : Sound lib tenantId s := by
  refine h.invariant ⟨understood_of_prompt rfl, fun data hdata => by cases hdata⟩ ?_
  intro s a s' hs hok hstep
  exact ⟨(understood_step hs hstep).mpr hok, fun data hdata => kept_step hs hstep hdata⟩

end AnswersLemmas

/-- As long as no step misleads, the answer to every screen is understood, and exactly the steps
that mislead lead to a screen whose answer is not. -/
theorem answers_of_reaches (lib : Library) (tenantId : Nat) (db : Database)
    (session : Option AdminSession) (s : State)
    (h : Reaches (step lib tenantId) (fun s a => misled lib tenantId s a = false)
      ⟨⟨db, none, session, 0⟩, none⟩ s) :
    Understood lib tenantId s ∧ ∀ a s', step lib tenantId s a = some s' →
      (Understood lib tenantId s' ↔ misled lib tenantId s a = false) :=
  ⟨(sound_of_reaches h).understood, fun _ _ hstep => understood_step (sound_of_reaches h) hstep⟩

/-! ## A confirmation that is lost -/

def exLibrary : Library where
  validatePhone value := some (normalizePhone (some value))
  validateFullName := some
  validateLocalUsername := some
  validatePasswordPolicy := some
  calculateExpiration _ expiresAt := expiresAt

def exTurn : Turn := ⟨none, true, 2, "password", true⟩

def exDatabase : Database where
  clients := ⟨[⟨1, 1, "Ana", "ana", some "34600111222", none, true⟩], List.nodup_singleton _⟩
  subscriptions := ⟨[⟨7, 1, 1, .active, 0⟩], List.nodup_singleton _⟩
  blocked := Table.empty
  services := Table.empty

def exStart : State := ⟨⟨exDatabase, none, none, 0⟩, none⟩

def exOpen : Action :=
  .start (some "34600111222") none (some "34600111222@s.whatsapp.net") "34600999888@s.whatsapp.net"

def exSelected : List Action := [exOpen, .message exTurn "3", .message exTurn "1"]

/-- The admin opens the menu of a client and selects a subscription. -/
theorem answers_of_reaches_selected : ∃ s, s.prompt.map Prod.fst = some .subscriptionDetail ∧
    Understood exLibrary 1 s ∧ ∀ a s', step exLibrary 1 s a = some s' →
      (Understood exLibrary 1 s' ↔ misled exLibrary 1 s a = false) := by
  have hrun : (execWhere (step exLibrary 1) (fun s a => !misled exLibrary 1 s a) exStart
      exSelected).any fun s => s.prompt.map Prod.fst = some .subscriptionDetail := by
    decide +kernel
  obtain ⟨s, hreaches, hprompt⟩ := exists_of_execWhere hrun
  exact ⟨s, of_decide_eq_true hprompt, answers_of_reaches exLibrary 1 exDatabase none s
    (hreaches.mono fun _ _ hok => by simpa using hok)⟩

def asksDeactivation (tenantId : Nat) (s : State) : Bool :=
  s.store.context.any fun data =>
    s.prompt = some (.deactivateSubscription, targetOf tenantId s.store data)

theorem not_understood_deactivation {s : State} (h : asksDeactivation tenantId s = true) :
    ¬Understood lib tenantId s := by
  obtain ⟨data, hctx, hprompt⟩ := (Option.any_eq_true _ _).mp h
  intro hunderstood
  have hrouted := ((understood_iff hctx (of_decide_eq_true hprompt)).mp hunderstood).routed
  rw [answers_deactivateSubscription] at hrouted
  cases hrouted

/-- The confirmation to deactivate a subscription shows the menu of the client again, and the
subscription is still active. -/
theorem confirmation_is_lost : ∃ s s', Reaches (step exLibrary 1) Always exStart s ∧
    asksDeactivation 1 s = true ∧ ¬Understood exLibrary 1 s ∧
    step exLibrary 1 s (.message exTurn "CONFIRMAR") = some s' ∧
    s'.prompt.map Prod.fst = some .activeMenu ∧
    (s'.store.db.getSubscription 1 7).map (·.status) = some .active := by
  have hrun : ((exec (step exLibrary 1) exStart (exSelected ++ [Action.message exTurn "2"])).any fun s =>
      asksDeactivation 1 s && (step exLibrary 1 s (.message exTurn "CONFIRMAR")).any fun s' =>
        s'.prompt.map Prod.fst = some .activeMenu &&
          (s'.store.db.getSubscription 1 7).map (·.status) = some .active) = true := by
    decide +kernel
  obtain ⟨s, hexec, hs⟩ := (Option.any_eq_true _ _).mp hrun
  rw [Bool.and_eq_true, Option.any_eq_true] at hs
  obtain ⟨hasks, s', hstep, hs'⟩ := hs
  rw [Bool.and_eq_true, decide_eq_true_eq, decide_eq_true_eq] at hs'
  exact ⟨s, s', reaches_of_exec hexec, hasks, not_understood_deactivation hasks, hstep, hs'⟩

end Trackpal.Console.Shortcut
