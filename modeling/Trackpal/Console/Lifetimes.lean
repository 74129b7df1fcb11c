import Trackpal.Console.Answers

/-!
# How long a dialog waits

The key of the record lives for five minutes. A save of the record either starts them again or keeps
the time that is left, as the branch that saves says, and the dispatcher saves behind some handlers
whatever they have answered.

Results:
1. `undisturbed_iff`.
2. `refusal_restarts`.
-/

namespace Trackpal.Console.Shortcut

open Trackpal.Foundation AnswersLemmas

/-! ## Refusals -/

section
variable (lib : Library) (tenantId : Nat) (turn : Turn) (store : Store) (data : Context)

def Text.refuses : Text → Bool
  | .invalidOption | .createPhoneInvalid | .createNameEmpty | .createNameInvalid
  | .createUsernameEmpty | .createUsernameInvalid | .createPasswordChoiceInvalid
  | .createPasswordTooShort | .createConfirmInvalid | .postCreateInvalidOption
  | .editFieldInvalid | .deactivatePromptAgain | .inactiveDeletePromptAgain => true
  | _ => false

/-- A reply refuses the message: it begins with such a text, or with an error in front of the prompt
that is asked again. -/
def refuses : List Text → Bool
  | .translatedError :: _ :: _ => true
  | text :: _ => text.refuses
  | [] => false

/-- The messages that a list of subscriptions has no entry for. -/
def unlisted (client : Client) (msgLower : String) : Bool :=
  let subscriptions := store.db.activeSubscriptions tenantId client.id
  !isDigits msgLower || (parseInt msgLower).any fun index : Int =>
    (if 1 ≤ index then subscriptions[(index - 1).toNat]? else none).isNone &&
      index ≠ subscriptions.length + 1

def valueRefused (message : String) : Bool :=
  turn.refusal = some .userFacing &&
    (updatePayload lib data.temp.editField (strip message)).isSome &&
      (data.temp.clientId.bind (store.db.getClient tenantId)).isSome

/-- The client that has just been created is not among the active ones. -/
def uncollected : Bool :=
  match (normalizePhone data.temp.phone).elim (.ok none) (store.db.activeClient tenantId) with
  | .ok none => true
  | _ => false

def refusedAt (client : Option Client) (message : String) : Handler → Bool
  | .unblockedMenu => clean message ∉ ["1", "2"] && !isCancel (clean message)
  | .blockedMenu => clean message ≠ "1" && !isCancel (clean message)
  | .creatingFirst => false
  | .creatingPhone => (lib.validatePhone (strip message)).isNone
  | .creatingName => strip message = "" || (lib.validateFullName (strip message)).isNone
  | .creatingUsername => strip message = "" || (lib.validateLocalUsername (strip message)).isNone
  | .creatingPasswordChoice => clean message ∉ ["1", "2"]
  | .creatingPasswordManual => (strip message).length < 8
  | .creatingConfirm => !confirms message
  | .postCreateMenu =>
    !isCancel (clean message) && (clean message ≠ "1" || uncollected tenantId store data)
  | .activeDetail | .activeEditField | .inactiveEditField =>
    !isBack (clean message) && clean message ∉ ["1", "2"]
  | .activeEditValue | .inactiveEditValue =>
    !isBack (clean message) && valueRefused lib tenantId turn store data message
  | .activeDeactivateConfirm | .inactiveDeleteConfirm =>
    !isBack (clean message) && !confirms message
  | .activeViewSubscriptions => client.any fun client =>
    !(clean message = "3" && data.step = .activeViewSubscriptions) && !isBack (clean message) &&
      unlisted tenantId store client (clean message)
  | .viewSubscriptionDetail => client.isSome && (!isBack (clean message) && (clean message ≠ "2" &&
      !(clean message = "1" &&
        (data.temp.selectedSubId.bind (store.db.getSubscription tenantId)).isSome)))
  | .activeExtendSubscription => client.isSome && (!isBack (clean message) &&
      ((durationOf (clean message)).isNone && !confirmsLower (clean message)))
  | .activeDeactivateSubscription =>
    client.isSome && (!isBack (clean message) && !confirmsLower (clean message))
  | .activeClientMenu => client.isSome && clean message ∉ ["1", "2", "3", "4", "5"]
  | .inactiveClientMenu => client.isSome && clean message ∉ ["1", "2", "3", "4"]
  | .inactiveDetail =>
    client.isSome && (!isBack (clean message) && clean message ∉ ["1", "2", "3"])

def refusalSave : Handler → Option Bool
  | .creatingPhone | .creatingName | .creatingUsername | .creatingPasswordChoice
  | .creatingPasswordManual | .creatingConfirm | .activeEditField | .activeEditValue
  | .inactiveEditField | .inactiveEditValue | .activeClientMenu | .inactiveClientMenu => some true
  | .activeDeactivateConfirm | .inactiveDeleteConfirm => none
  | _ => some false

/-- The messages that a handler understands, answers with an error and does not save: the extension
or the cancellation of a subscription that is gone or refused. -/
def failsAt (client : Option Client) (message : String) : Handler → Bool
  | .activeExtendSubscription => client.isSome && (!isBack (clean message) &&
      if (durationOf (clean message)).isSome then
        (data.temp.extendSubId.bind (store.db.getSubscription tenantId)).isNone
      else confirmsLower (clean message) && (data.temp.extendDurationType.isNone ||
        turn.refusal.isSome ||
          (data.temp.extendSubId.bind (store.db.getSubscription tenantId)).isNone))
  | .activeDeactivateSubscription => client.isSome && (!isBack (clean message) &&
      (confirmsLower (clean message) && (turn.refusal.isSome ||
        (data.temp.selectedSubId.bind (store.db.getSubscription tenantId)).isNone)))
  | _ => false

end

/-- The save of a refusal, with its flag. -/
def Store.written (store : Store) (data : Context) : Option Bool → Store
  | some true => store.save data
  | some false => store.keep data
  | none => store

/-- What a handler does with a message: it refuses it, accepts it, ends the dialog, answers with an
error without a save, or does not answer. The last two arguments tell the first and the fourth. -/
inductive Treats (store : Store) (data : Context) (save : Option Bool) :
    Outcome × Store → Bool → Bool → Prop where
  | refused {response : Response} (hreply : refuses response.reply = true) :
    Treats store data save (.response response, store.written data save) true false
  | accepted {response : Response} {store' : Store} (hreply : refuses response.reply = false)
      (httl : store'.ttl = contextTtl) :
    Treats store data save (.response response, store') false false
  | ended {response : Response} {store' : Store} (hreply : refuses response.reply = false)
      (hgone : store'.context = none) :
    Treats store data save (.response response, store') false false
  | failed {response : Response} (hreply : refuses response.reply = false) :
    Treats store data save (.response response, store) false true
  | silent {outcome : Outcome} {store' : Store}
      (hsilent : ∀ response, outcome ≠ .response response) :
    Treats store data save (outcome, store') false false

namespace LifetimesLemmas

variable {lib : Library} {tenantId : Nat} {turn : Turn} {store : Store} {data : Context}
  {message : String} {save : Option Bool} {client : Client}

theorem not_not_true : ¬(!true) = true := Bool.false_ne_true

theorem treats_saved {adminJid : String} {reply : List Text} {store' : Store} {data' : Context}
    (h : refuses reply = false) :
    Treats store data save (.response (say adminJid reply), store'.save data') false
      false :=
  .accepted h rfl

theorem treats_cleared {response : Response} {store' : Store}
    (h : refuses response.reply = false) :
    Treats store data save (.response response, store'.clear) false false :=
  .ended h rfl

theorem treats_raised : Treats store data save (.raised, store) false false :=
  .silent nofun

theorem refuses_menu {db : Database} {phone : Option String} {menu : List Text × Option Nat}
    (h : renderInitialContextMenu tenantId db phone = .ok menu) : refuses menu.1 = false := by
  unfold renderInitialContextMenu at h
  cases htruthy : truthy phone with
  | none =>
    rw [htruthy] at h
    cases hblock : db.findActive tenantId phone none <;>
      (simp only [bind, Except.bind, pure, Except.pure, hblock] at h; cases h; rfl)
  | some digits =>
    rw [htruthy] at h
    dsimp only at h
    cases hany : db.anyClient tenantId digits with
    | error e =>
      rw [hany] at h
      cases h
    | ok found =>
      rw [hany] at h
      cases found with
      | none =>
        cases hblock : db.findActive tenantId phone none <;>
          (simp only [bind, Except.bind, hblock] at h; cases h; rfl)
      | some client =>
        cases hactive : client.isActive <;>
          (simp only [bind, Except.bind, hactive] at h; cases h; rfl)

theorem treats_creatingFirst : Treats store data (some false)
    (saved store (handleCtxCreatingFirst data)) false false := by
  unfold handleCtxCreatingFirst
  cases truthy data.temp.targetPhone with
  | none => exact treats_saved rfl
  | some phone => exact treats_saved rfl

theorem treats_creatingPhone : Treats store data (some true)
    (saved store (handleCtxCreatingPhone lib data message))
    (lib.validatePhone (strip message)).isNone false := by
  unfold handleCtxCreatingPhone
  cases lib.validatePhone (strip message) with
  | none => exact .refused rfl
  | some phone => exact treats_saved rfl

theorem treats_creatingName : Treats store data (some true)
    (saved store (handleCtxCreatingName lib data message))
    (strip message = "" || (lib.validateFullName (strip message)).isNone) false := by
  unfold handleCtxCreatingName
  by_cases hempty : strip message = ""
  · rw [if_pos hempty, decide_eq_true hempty]
    exact .refused rfl
  · rw [if_neg hempty, decide_eq_false hempty]
    cases lib.validateFullName (strip message) with
    | none => exact .refused rfl
    | some name => exact treats_saved rfl

theorem treats_creatingUsername : Treats store data (some true)
    (saved store (handleCtxCreatingUsername lib data message))
    (strip message = "" || (lib.validateLocalUsername (strip message)).isNone) false := by
  unfold handleCtxCreatingUsername
  by_cases hempty : strip message = ""
  · rw [if_pos hempty, decide_eq_true hempty]
    exact .refused rfl
  · rw [if_neg hempty, decide_eq_false hempty]
    cases lib.validateLocalUsername (strip message) with
    | none => exact .refused rfl
    | some name => exact treats_saved rfl

theorem treats_creatingPasswordChoice {msg : String} : Treats store data (some true)
    (saved store (handleCtxCreatingPasswordChoice turn data msg))
    (decide (msg ∉ ["1", "2"])) false := by
  unfold handleCtxCreatingPasswordChoice
  by_cases h1 : msg = "1"
  · rw [if_pos h1, decide_eq_false (by simp [h1])]
    exact treats_saved rfl
  by_cases h2 : msg = "2"
  · rw [if_neg h1, if_pos h2, decide_eq_false (by simp [h2])]
    exact treats_saved rfl
  · rw [if_neg h1, if_neg h2, decide_eq_true (by simp [h1, h2])]
    exact .refused rfl

theorem treats_creatingPasswordManual : Treats store data (some true)
    (saved store (handleCtxCreatingPasswordManual data message))
    (decide ((strip message).length < 8)) false := by
  unfold handleCtxCreatingPasswordManual
  by_cases hshort : (strip message).length < 8
  · rw [if_pos hshort, decide_eq_true hshort]
    exact .refused rfl
  · rw [if_neg hshort, decide_eq_false hshort]
    exact treats_saved rfl

theorem treats_creatingConfirm : Treats store data (some true)
    (handleCtxCreatingConfirm lib tenantId turn store data message)
    (!confirms message) false := by
  unfold handleCtxCreatingConfirm
  cases confirms message with
  | false => exact .refused rfl
  | true =>
    rw [if_neg not_not_true]
    cases creationPayload lib data.temp with
    | none => exact treats_raised
    | some payload =>
      dsimp only
      cases store.db.createClient tenantId turn.refusal turn.tenantExists turn.newId payload with
      | error refusal => cases refusal <;> exact treats_cleared rfl
      | ok result =>
        obtain ⟨_ | created, db⟩ := result
        · exact treats_cleared rfl
        · exact treats_saved rfl

theorem treats_unblockedMenu {msg : String} : Treats store data (some false)
    (handleCtxUnblockedMenu tenantId turn store data msg)
    (decide (msg ∉ ["1", "2"]) && !isCancel msg) false := by
  unfold handleCtxUnblockedMenu
  by_cases h1 : msg = "1"
  · rw [if_pos h1, decide_eq_false (by simp [h1])]
    unfold handleCtxCreatingFirst
    dsimp only
    cases truthy data.temp.targetPhone with
    | none => exact treats_saved rfl
    | some phone => exact treats_saved rfl
  rw [if_neg h1]
  by_cases h2 : msg = "2"
  · rw [if_pos h2, decide_eq_false (by simp [h2])]
    cases store.db.createBlock tenantId turn.newId (normalizePhone data.temp.targetPhone)
        data.temp.targetLid with
    | none => exact treats_raised
    | some db => exact treats_cleared rfl
  rw [if_neg h2, decide_eq_true (by simp [h1, h2])]
  cases isCancel msg with
  | true => exact treats_cleared rfl
  | false => exact .refused rfl

theorem treats_blockedMenu {msg : String} : Treats store data (some false)
    (handleCtxBlockedMenu tenantId store data msg)
    (decide (msg ≠ "1") && !isCancel msg) false := by
  unfold handleCtxBlockedMenu
  by_cases h1 : msg = "1"
  · rw [if_pos h1, decide_eq_false (not_not.mpr h1)]
    exact treats_cleared rfl
  rw [if_neg h1, decide_eq_true h1]
  cases isCancel msg with
  | true => exact treats_cleared rfl
  | false => exact .refused rfl

theorem treats_postCreateMenu {msg : String} : Treats store data (some false)
    (handlePostCreateMenu tenantId store data msg)
    (!isCancel msg && (decide (msg ≠ "1") || uncollected tenantId store data)) false := by
  have hinvalid : Treats store data (some false)
      (if isCancel msg = true then
          (.response (closing data.temp [.closed] []), store.clear)
        else (.response (say data.temp.adminJid [.postCreateInvalidOption]), store.keep data))
      (!isCancel msg) false := by
    cases isCancel msg with
    | true => exact treats_cleared rfl
    | false => exact .refused rfl
  unfold handlePostCreateMenu uncollected
  dsimp only
  by_cases h1 : msg = "1"
  · rw [if_pos h1, decide_eq_false (not_not.mpr h1), Bool.false_or]
    cases (normalizePhone data.temp.phone).elim (.ok none) (store.db.activeClient tenantId) with
    | error e =>
      rw [Bool.and_false]
      exact treats_raised
    | ok found =>
      cases found with
      | none =>
        rw [Bool.and_true]
        exact hinvalid
      | some client =>
        rw [Bool.and_false]
        dsimp only
        cases hmenu : renderInitialContextMenu tenantId store.db data.temp.phone with
        | error e => exact treats_raised
        | ok menu => exact treats_saved (refuses_menu hmenu)
  · rw [if_neg h1, decide_eq_true h1, Bool.true_or, Bool.and_true]
    exact hinvalid

theorem treats_activeDetail {msg : String} : Treats store data (some false)
    (handleCtxActiveDetail store data msg)
    (!isBack msg && decide (msg ∉ ["1", "2"])) false := by
  unfold handleCtxActiveDetail
  cases isBack msg with
  | true => exact treats_saved rfl
  | false =>
    by_cases h1 : msg = "1"
    · rw [if_neg Bool.false_ne_true, if_pos h1, decide_eq_false (by simp [h1])]
      exact treats_saved rfl
    by_cases h2 : msg = "2"
    · rw [if_neg Bool.false_ne_true, if_neg h1, if_pos h2, decide_eq_false (by simp [h2])]
      exact treats_saved rfl
    · rw [if_neg Bool.false_ne_true, if_neg h1, if_neg h2, decide_eq_true (by simp [h1, h2])]
      exact .refused rfl

theorem treats_editField {steps : EditSteps} {msg : String}
    (hsteps : refuses steps.detailText = false) :
    Treats store data (some true) (editField store data steps msg)
      (!isBack msg && decide (msg ∉ ["1", "2"])) false := by
  unfold editField
  dsimp only
  cases isBack msg with
  | true => exact treats_saved hsteps
  | false =>
    rw [if_neg Bool.false_ne_true]
    by_cases h1 : msg = "1"
    · rw [if_pos h1, decide_eq_false (by simp [h1])]
      exact treats_saved rfl
    by_cases h2 : msg = "2"
    · rw [if_neg h1, if_pos h2, decide_eq_false (by simp [h2])]
      exact treats_saved rfl
    · rw [if_neg h1, if_neg h2, decide_eq_true (by simp [h1, h2])]
      exact .refused rfl

section
variable {db : Database} {id : Nat} {row : Client} {refusal : Refusal}
  {payload : Option (Database.EditField × String)}

theorem changeClient_none {asked : Option Refusal} (h : db.getClient tenantId id = none) :
    db.updateClient tenantId asked id payload = .ok (none, db) := by
  unfold Database.updateClient Database.changeClient
  rw [h]

theorem changeClient_some (h : db.getClient tenantId id = some row) :
    ∃ db', db.updateClient tenantId none id payload =
      .ok (some (Database.setField payload row), db') := by
  unfold Database.updateClient Database.changeClient
  rw [h]
  exact ⟨_, rfl⟩

theorem changeClient_refused (h : db.getClient tenantId id = some row) :
    db.updateClient tenantId (some refusal) id payload = .error refusal := by
  unfold Database.updateClient Database.changeClient
  rw [h]

end

theorem treats_editValue {steps : EditSteps} {msg : String} : Treats store data (some true)
    (editValue lib tenantId turn store data steps message msg)
    (!isBack msg && valueRefused lib tenantId turn store data message) false := by
  unfold editValue valueRefused
  cases isBack msg with
  | true => exact treats_saved rfl
  | false =>
    dsimp only
    rw [if_neg Bool.false_ne_true, Bool.not_false, Bool.true_and]
    cases hid : data.temp.clientId with
    | none =>
      rw [Option.bind_none, Option.isSome_none, Bool.and_false]
      exact treats_raised
    | some clientId =>
      rw [Option.bind_some]
      cases updatePayload lib data.temp.editField (strip message) with
      | none =>
        rw [Option.isSome_none, Bool.and_false, Bool.false_and]
        exact treats_raised
      | some payload =>
        rw [Option.isSome_some, Bool.and_true]
        dsimp only
        cases hrow : store.db.getClient tenantId clientId with
        | none =>
          rw [changeClient_none hrow, Option.isSome_none, Bool.and_false]
          exact treats_cleared rfl
        | some row =>
          rw [Option.isSome_some, Bool.and_true]
          cases hrefusal : turn.refusal with
          | none =>
            obtain ⟨db, hupdate⟩ := changeClient_some hrow
            rw [hupdate]
            exact treats_saved rfl
          | some refusal =>
            rw [changeClient_refused hrow]
            cases refusal with
            | userFacing => exact .refused rfl
            | other => exact treats_cleared rfl

theorem refuses_list {subscriptions : List Subscription} :
    refuses (subscriptionsListText subscriptions) = false := rfl

theorem refuses_cons {text : Text} {rest : List Text} (h : text ≠ .translatedError) :
    refuses (text :: rest) = text.refuses := by
  cases text <;> first | rfl | exact absurd rfl h

theorem treats_startContextSubscription {store' : Store} {data' : Context} :
    Treats store data save (startContextSubscription tenantId store' data' client)
      false false := by
  unfold startContextSubscription
  dsimp only
  by_cases hservices : store'.db.listServices tenantId = []
  · rw [if_pos hservices]
    exact treats_cleared rfl
  · rw [if_neg hservices]
    exact treats_saved rfl

theorem treats_activeViewSubscriptions {msg : String} : Treats store data (some false)
    (handleCtxActiveViewSubscriptions tenantId store data client msg)
    (!(decide (msg = "3") && decide (data.step = .activeViewSubscriptions)) && !isBack msg &&
      unlisted tenantId store client msg) false := by
  have hinvalid : Treats store data (some false)
      (.response (say data.temp.adminJid (.invalidOption ::
        subscriptionsListText (store.db.activeSubscriptions tenantId client.id))), store.keep data)
      true false := .refused (refuses_cons nofun)
  unfold handleCtxActiveViewSubscriptions unlisted
  dsimp only
  cases decide (msg = "3") && decide (data.step = .activeViewSubscriptions) with
  | true => exact treats_saved refuses_list
  | false =>
    rw [if_neg Bool.false_ne_true, Bool.not_false, Bool.true_and]
    cases isBack msg with
    | true => exact treats_saved rfl
    | false =>
      rw [if_neg Bool.false_ne_true, Bool.not_false, Bool.true_and]
      cases isDigits msg with
      | false => exact hinvalid
      | true =>
        rw [if_pos rfl, Bool.not_true, Bool.false_or]
        cases parseInt msg with
        | none => exact treats_raised
        | some index =>
          rw [Option.any_some]
          dsimp only
          cases (if 1 ≤ index then
              (store.db.activeSubscriptions tenantId client.id)[(index - 1).toNat]?
            else none) with
          | some sub => exact treats_saved rfl
          | none =>
            rw [Option.isNone_none, Bool.true_and]
            by_cases hlast : index = (store.db.activeSubscriptions tenantId client.id).length + 1
            · rw [if_pos hlast, decide_eq_false (not_not.mpr hlast)]
              exact treats_startContextSubscription
            · rw [if_neg hlast, decide_eq_true hlast]
              exact hinvalid

theorem treats_viewSubscriptionDetail {msg : String} : Treats store data (some false)
    (handleCtxViewSubscriptionDetail tenantId store data client msg)
    (!isBack msg && (decide (msg ≠ "2") && !(decide (msg = "1") &&
      (data.temp.selectedSubId.bind (store.db.getSubscription tenantId)).isSome))) false := by
  unfold handleCtxViewSubscriptionDetail
  dsimp only
  cases isBack msg with
  | true => exact treats_saved refuses_list
  | false =>
    rw [if_neg Bool.false_ne_true, Bool.not_false, Bool.true_and]
    cases decide (msg = "1") &&
        (data.temp.selectedSubId.bind (store.db.getSubscription tenantId)).isSome with
    | true =>
      rw [if_pos rfl, Bool.not_true, Bool.and_false]
      exact treats_saved rfl
    | false =>
      rw [if_neg Bool.false_ne_true, Bool.not_false, Bool.and_true]
      by_cases h2 : msg = "2"
      · rw [if_pos h2, decide_eq_false (not_not.mpr h2)]
        exact treats_saved rfl
      · rw [if_neg h2, decide_eq_true h2]
        exact .refused (refuses_cons nofun)

theorem refuses_subscriptionOrList {db : Database} {subId : Option Nat} :
    refuses (subscriptionOrList tenantId db client subId) = false := by
  unfold subscriptionOrList
  cases (subId.bind (db.getSubscription tenantId)).isSome <;> rfl

theorem renewSubscription_isNone {refusal : Option Refusal} {db : Database} {subId : Nat}
    {extend : Int → Int} : (db.renewSubscription tenantId refusal subId extend).isNone =
      (refusal.isSome || (db.getSubscription tenantId subId).isNone) := by
  unfold Database.renewSubscription
  cases db.getSubscription tenantId subId <;> cases refusal <;> rfl

theorem cancelSubscription_isNone {refusal : Option Refusal} {db : Database} {subId : Nat} :
    (db.cancelSubscription tenantId refusal subId).isNone =
      (refusal.isSome || (db.getSubscription tenantId subId).isNone) := by
  unfold Database.cancelSubscription
  cases db.getSubscription tenantId subId <;> cases refusal <;> rfl

theorem treats_failed {text : Text} {adminJid : String} (h : refuses [text] = false) :
    Treats store data save (.response (say adminJid [text]), store) false true :=
  .failed h

theorem treats_activeExtendSubscription {msg : String} : Treats store data (some false)
    (handleCtxActiveExtendSubscription lib tenantId turn store data client msg)
    (!isBack msg && ((durationOf msg).isNone && !confirmsLower msg))
    (!isBack msg && if (durationOf msg).isSome then
        (data.temp.extendSubId.bind (store.db.getSubscription tenantId)).isNone
      else confirmsLower msg && (data.temp.extendDurationType.isNone || turn.refusal.isSome ||
        (data.temp.extendSubId.bind (store.db.getSubscription tenantId)).isNone)) := by
  unfold handleCtxActiveExtendSubscription
  dsimp only
  cases isBack msg with
  | true => exact treats_saved refuses_subscriptionOrList
  | false =>
    rw [if_neg Bool.false_ne_true, Bool.not_false, Bool.true_and, Bool.true_and]
    cases durationOf msg with
    | some duration =>
      dsimp only
      cases data.temp.extendSubId.bind (store.db.getSubscription tenantId) with
      | none => exact treats_failed rfl
      | some sub => exact treats_saved rfl
    | none =>
      dsimp only
      cases confirmsLower msg with
      | false => exact .refused rfl
      | true =>
        rw [if_pos rfl]
        cases data.temp.extendDurationType with
        | none => exact treats_failed rfl
        | some duration =>
          cases data.temp.extendSubId with
          | none => simpa using treats_failed rfl
          | some subId =>
            have hrenew := @renewSubscription_isNone tenantId turn.refusal store.db subId
              (lib.calculateExpiration duration)
            rw [Option.isNone_some, Bool.false_or, Option.bind_some, ← hrenew]
            dsimp only
            cases store.db.renewSubscription tenantId turn.refusal subId
                (lib.calculateExpiration duration) with
            | none => exact treats_failed rfl
            | some db => exact treats_saved rfl

theorem treats_activeDeactivateSubscription {msg : String} : Treats store data (some false)
    (handleCtxActiveDeactivateSubscription tenantId turn store data client msg)
    (!isBack msg && !confirmsLower msg)
    (!isBack msg && (confirmsLower msg && (turn.refusal.isSome ||
      (data.temp.selectedSubId.bind (store.db.getSubscription tenantId)).isNone))) := by
  unfold handleCtxActiveDeactivateSubscription
  dsimp only
  cases isBack msg with
  | true => exact treats_saved refuses_subscriptionOrList
  | false =>
    cases confirmsLower msg with
    | false => exact .refused rfl
    | true =>
      rw [if_neg Bool.false_ne_true, if_pos rfl]
      cases data.temp.selectedSubId with
      | none => simpa using treats_failed rfl
      | some subId =>
        rw [Option.bind_some, ← cancelSubscription_isNone]
        dsimp only
        cases store.db.cancelSubscription tenantId turn.refusal subId with
        | none => exact treats_failed rfl
        | some db => exact treats_saved rfl

theorem treats_activeClientMenu {msg : String} : Treats store data (some true)
    (handleCtxActiveClientMenu tenantId store data client msg)
    (decide (msg ∉ ["1", "2", "3", "4", "5"])) false := by
  unfold handleCtxActiveClientMenu
  dsimp only
  by_cases h3 : msg = "3"
  · have hview {store' : Store} {data' : Context} (h : data'.step = .activeViewSubscriptions) :
        handleCtxActiveViewSubscriptions tenantId store' data' client "3" =
          (.response (say data'.temp.adminJid (subscriptionsListText
            (store'.db.activeSubscriptions tenantId client.id))), store'.save data') := by
      unfold handleCtxActiveViewSubscriptions
      rw [h]
      rfl
    subst h3
    rw [if_neg (by decide), if_pos rfl, hview rfl]
    exact .accepted refuses_list rfl
  rw [if_neg h3]
  by_cases h1 : msg = "1"
  · rw [if_pos h1, decide_eq_false (by simp [h1])]
    exact treats_saved rfl
  by_cases h2 : msg = "2"
  · rw [if_neg h1, if_pos h2, decide_eq_false (by simp [h2])]
    exact treats_saved rfl
  rw [if_neg h1, if_neg h2]
  by_cases h4 : msg = "4"
  · rw [if_pos h4, decide_eq_false (by simp [h4])]
    exact treats_saved rfl
  by_cases h5 : msg = "5"
  · rw [if_neg h4, if_pos h5, decide_eq_false (by simp [h5])]
    exact treats_saved rfl
  · rw [if_neg h4, if_neg h5, decide_eq_true (by simp [h1, h2, h3, h4, h5])]
    exact .refused rfl

theorem treats_backToMenu {first : Step} {menu : List Text} (hmenu : refuses menu = false) :
    Treats store data none (backToMenu tenantId turn store data first menu)
      false false := by
  unfold backToMenu
  dsimp only
  cases data.temp.clientId with
  | none => exact .silent nofun
  | some clientId =>
    dsimp only
    cases turn.refusal.isSome || (store.db.getClient tenantId clientId).isNone with
    | true => exact .ended rfl rfl
    | false => exact treats_saved hmenu

theorem treats_activeDeactivateConfirm {msg : String} : Treats store data none
    (handleCtxActiveDeactivateConfirm tenantId turn store data message msg)
    (!isBack msg && !confirms message) false := by
  unfold handleCtxActiveDeactivateConfirm
  dsimp only
  cases isBack msg with
  | true => exact treats_backToMenu rfl
  | false =>
    rw [if_neg Bool.false_ne_true]
    cases confirms message with
    | false => exact .refused rfl
    | true =>
      rw [if_neg not_not_true]
      cases data.temp.clientId with
      | none => exact treats_raised
      | some clientId =>
        dsimp only
        cases store.db.deactivateClient tenantId turn.refusal clientId with
        | error refusal => exact treats_cleared rfl
        | ok result =>
          obtain ⟨_ | updated, db⟩ := result
          · exact treats_cleared rfl
          · exact treats_saved rfl

theorem treats_reactivate : Treats store data save
    (reactivateContextClient tenantId turn store data client)
    false false := by
  unfold reactivateContextClient
  cases store.db.activateClient tenantId turn.refusal client.id with
  | error refusal => cases refusal <;> exact treats_cleared rfl
  | ok result =>
    obtain ⟨_ | updated, db⟩ := result
    · exact treats_cleared rfl
    · exact treats_saved rfl

theorem treats_inactiveClientMenu {msg : String} : Treats store data (some true)
    (handleCtxInactiveClientMenu tenantId turn store data client msg)
    (decide (msg ∉ ["1", "2", "3", "4"])) false := by
  unfold handleCtxInactiveClientMenu
  dsimp only
  by_cases h3 : msg = "3"
  · subst h3
    rw [if_neg (by decide), if_pos rfl]
    exact treats_reactivate
  rw [if_neg h3]
  by_cases h1 : msg = "1"
  · rw [if_pos h1, decide_eq_false (by simp [h1])]
    exact treats_saved rfl
  by_cases h2 : msg = "2"
  · rw [if_neg h1, if_pos h2, decide_eq_false (by simp [h2])]
    exact treats_saved rfl
  rw [if_neg h1, if_neg h2]
  by_cases h4 : msg = "4"
  · rw [if_pos h4, decide_eq_false (by simp [h4])]
    exact treats_saved rfl
  · rw [if_neg h4, decide_eq_true (by simp [h1, h2, h3, h4])]
    exact .refused rfl

theorem treats_inactiveDetail {msg : String} : Treats store data (some false)
    (handleCtxInactiveDetail tenantId turn store data client msg)
    (!isBack msg && decide (msg ∉ ["1", "2", "3"])) false := by
  unfold handleCtxInactiveDetail
  dsimp only
  cases isBack msg with
  | true => exact treats_saved rfl
  | false =>
    rw [if_neg Bool.false_ne_true, Bool.not_false, Bool.true_and]
    by_cases h1 : msg = "1"
    · rw [if_pos h1, decide_eq_false (by simp [h1])]
      exact treats_saved rfl
    by_cases h2 : msg = "2"
    · rw [if_neg h1, if_pos h2, decide_eq_false (by simp [h2])]
      exact treats_reactivate
    rw [if_neg h1, if_neg h2]
    by_cases h3 : msg = "3"
    · rw [if_pos h3, decide_eq_false (by simp [h3])]
      exact treats_saved rfl
    · rw [if_neg h3, decide_eq_true (by simp [h1, h2, h3])]
      exact .refused rfl

theorem treats_inactiveDeleteConfirm {msg : String} : Treats store data none
    (handleCtxInactiveDeleteConfirm tenantId turn store data message msg)
    (!isBack msg && !confirms message) false := by
  unfold handleCtxInactiveDeleteConfirm
  dsimp only
  cases isBack msg with
  | true => exact treats_backToMenu rfl
  | false =>
    rw [if_neg Bool.false_ne_true]
    cases confirms message with
    | false => exact .refused rfl
    | true =>
      rw [if_neg not_not_true]
      cases data.temp.clientId with
      | none => exact treats_raised
      | some clientId =>
        dsimp only
        cases store.db.deleteClient tenantId turn.refusal clientId with
        | error refusal => cases refusal <;> exact treats_cleared rfl
        | ok result =>
          obtain ⟨_ | _, db⟩ := result
          · exact treats_cleared rfl
          · dsimp only
            cases renderInitialContextMenu tenantId db data.temp.targetPhone with
            | error e => exact .silent nofun
            | ok menu => exact treats_saved (refuses_cons nofun)

theorem treats_uncalled : Treats store data save (.fallThrough, store) false false :=
  .silent nofun

theorem treats_handler {found : Option Client} {handler : Handler} :
    Treats store data (refusalSave handler)
      (runHandler lib tenantId turn store data found message handler)
      (refusedAt lib tenantId turn store data found message handler)
      (failsAt tenantId turn store data found message handler) := by
  cases handler <;> dsimp only [runHandler, refusedAt, failsAt, refusalSave]
  case unblockedMenu => exact treats_unblockedMenu
  case blockedMenu => exact treats_blockedMenu
  case creatingFirst => exact treats_creatingFirst
  case creatingPhone => exact treats_creatingPhone
  case creatingName => exact treats_creatingName
  case creatingUsername => exact treats_creatingUsername
  case creatingPasswordChoice => exact treats_creatingPasswordChoice
  case creatingPasswordManual => exact treats_creatingPasswordManual
  case creatingConfirm => exact treats_creatingConfirm
  case postCreateMenu => exact treats_postCreateMenu
  case activeDetail => exact treats_activeDetail
  case activeEditField => exact treats_editField rfl
  case inactiveEditField => exact treats_editField rfl
  case activeEditValue => exact treats_editValue
  case inactiveEditValue => exact treats_editValue
  case activeDeactivateConfirm => exact treats_activeDeactivateConfirm
  case inactiveDeleteConfirm => exact treats_inactiveDeleteConfirm
  -- The handlers below are not called without the client.
  all_goals
    cases found
    all_goals simp only [forClient, Option.isSome_none, Option.isSome_some,
      Option.any_none, Option.any_some, Bool.false_and, Bool.true_and]
  case activeClientMenu.some => exact treats_activeClientMenu
  case activeViewSubscriptions.some => exact treats_activeViewSubscriptions
  case viewSubscriptionDetail.some => exact treats_viewSubscriptionDetail
  case activeExtendSubscription.some => exact treats_activeExtendSubscription
  case activeDeactivateSubscription.some => exact treats_activeDeactivateSubscription
  case inactiveClientMenu.some => exact treats_inactiveClientMenu
  case inactiveDetail.some => exact treats_inactiveDetail
  all_goals exact treats_uncalled

end LifetimesLemmas

/-! ## What is owed to the record -/

def rootSteps : List Step := [.menu, .activeMenu, .inactiveMenu]

section
variable (lib : Library) (tenantId : Nat) (turn : Turn) (store : Store) (data : Context)

def foundClient : Option Client :=
  clientOf (registration store.db tenantId (normalizePhone data.temp.targetPhone))

/-- What is owed to a record: below the root menus, a message that the handler of the step refuses
leaves the record and its seconds as they are, and every other answer that keeps the record starts
the five minutes again. -/
structure Undisturbed (message : String) : Prop where
  refused : ∀ handler response, data.step ∉ rootSteps →
    routeOf tenantId store data message = .handler handler →
    (handleActiveClientContext lib tenantId turn store message).1 = .response response →
    refuses response.reply = true →
    (handleActiveClientContext lib tenantId turn store message).2.context = some data ∧
      (handleActiveClientContext lib tenantId turn store message).2.ttl = store.ttl
  accepted : ∀ response,
    (handleActiveClientContext lib tenantId turn store message).1 = .response response →
    refuses response.reply = false →
    (handleActiveClientContext lib tenantId turn store message).2.context.isSome = true →
    (handleActiveClientContext lib tenantId turn store message).2.ttl = contextTtl

/-- The save behind a refusal starts the time again, or stores another record. -/
def rewrites (data' : Context) : Option Bool → Bool
  | some refreshTtl => (refreshTtl && store.ttl ≠ contextTtl) || data' ≠ data
  | none => false

def disturbs (message : String) : Bool :=
  let client := foundClient tenantId store data
  let data' := withClientId data client
  match routeOf tenantId store data message with
  | .handler handler =>
    (data.step ∉ rootSteps && rewrites store data data' (refusalSave handler) &&
      refusedAt lib tenantId turn store data' client message handler) ||
    (store.ttl ≠ contextTtl && failsAt tenantId turn store data' client message handler)
  | _ => false

end

namespace LifetimesLemmas

variable {lib : Library} {tenantId : Nat} {turn : Turn} {store : Store} {data : Context}
  {message : String}

theorem kept_iff {data' : Context} {save : Option Bool} (hctx : store.context = some data) :
    (store.written data' save).context = some data ∧ (store.written data' save).ttl = store.ttl ↔
      rewrites store data data' save = false := by
  have hrecord : some data' = some data ↔ data' = data := Option.some_inj
  unfold rewrites
  match save with
  | none => exact iff_of_true ⟨hctx, rfl⟩ rfl
  | some true =>
    dsimp only
    rw [Bool.true_and, Bool.or_eq_false_iff, decide_eq_false_iff_not, decide_eq_false_iff_not,
      not_not, not_not, ← hrecord, and_comm, eq_comm (a := store.ttl)]
    rfl
  | some false =>
    dsimp only
    rw [Bool.false_and, Bool.false_or, decide_eq_false_iff_not, not_not, ← hrecord]
    exact and_iff_left rfl

theorem owed_of_treats {data' : Context} {save : Option Bool} {result : Outcome × Store}
    {refused failed root : Bool} (hctx : store.context = some data)
    (h : Treats store data' save result refused failed) :
    ((root = false → ∀ response, result.1 = .response response → refuses response.reply = true →
        result.2.context = some data ∧ result.2.ttl = store.ttl) ∧
      ∀ response, result.1 = .response response → refuses response.reply = false →
        result.2.context.isSome = true → result.2.ttl = contextTtl) ↔
    ((!root && rewrites store data data' save && refused) ||
      (decide (store.ttl ≠ contextTtl) && failed)) = false := by
  cases h with
  | refused hreply =>
    rw [Bool.and_false, Bool.or_false, Bool.and_true, Bool.and_eq_false_imp, ← kept_iff hctx]
    constructor
    · intro howed hroot
      exact howed.1 (by simpa using hroot) _ rfl hreply
    · intro hkept
      refine ⟨fun hroot _ _ _ => hkept (by simpa using hroot),
        fun response hresponse haccepts => ?_⟩
      cases hresponse
      rw [hreply] at haccepts
      cases haccepts
  | accepted hreply httl =>
    refine iff_of_true ⟨fun _ response hresponse hrefuses => ?_, fun _ _ _ _ => httl⟩ (by simp)
    cases hresponse
    rw [hreply] at hrefuses
    cases hrefuses
  | ended hreply hgone =>
    refine iff_of_true ⟨fun _ response hresponse hrefuses => ?_, fun _ _ _ hkept => ?_⟩ (by simp)
    · cases hresponse
      rw [hreply] at hrefuses
      cases hrefuses
    · rw [hgone] at hkept
      cases hkept
  | failed hreply =>
    rw [Bool.and_false, Bool.false_or, Bool.and_true, decide_eq_false_iff_not, not_not]
    constructor
    · intro howed
      exact howed.2 _ rfl hreply (by rw [hctx]; rfl)
    · intro httl
      exact ⟨fun _ _ _ _ => ⟨hctx, rfl⟩, fun _ _ _ _ => httl⟩
  | silent hsilent =>
    exact iff_of_true ⟨fun _ response hresponse => (hsilent response hresponse).elim,
      fun response hresponse => (hsilent response hresponse).elim⟩ (by simp)

theorem undisturbed_of_handler {handler : Handler} (hctx : store.context = some data)
    (h : routeOf tenantId store data message = .handler handler) :
    Undisturbed lib tenantId turn store data message ↔
      disturbs lib tenantId turn store data message = false := by
  have howed := @owed_of_treats store data (withClientId data (foundClient tenantId store data)) _ _
    _ _ (decide (data.step ∈ rootSteps)) hctx
    (@treats_handler lib tenantId turn store (withClientId data (foundClient tenantId store data))
      message (foundClient tenantId store data) handler)
  have hdisturbs : disturbs lib tenantId turn store data message =
      ((!decide (data.step ∈ rootSteps) &&
          rewrites store data (withClientId data (foundClient tenantId store data))
            (refusalSave handler) &&
          refusedAt lib tenantId turn store (withClientId data (foundClient tenantId store data))
            (foundClient tenantId store data) message handler) ||
        (decide (store.ttl ≠ contextTtl) &&
          failsAt tenantId turn store (withClientId data (foundClient tenantId store data))
            (foundClient tenantId store data) message handler)) := by
    unfold disturbs
    rw [h, decide_not]
  rw [hdisturbs, ← howed]
  have hhandle : handleActiveClientContext lib tenantId turn store message = _ :=
    handle_of_handler hctx h
  constructor
  · intro hundisturbed
    have hrefused := hundisturbed.refused handler
    have haccepted := hundisturbed.accepted
    rw [hhandle] at hrefused haccepted
    exact ⟨fun hroot response => hrefused response (of_decide_eq_false hroot) h, haccepted⟩
  · rintro ⟨hrefused, haccepted⟩
    refine ⟨fun _ response hroot _ => ?_, ?_⟩ <;> rw [hhandle]
    · exact hrefused (decide_eq_false hroot) response
    · exact haccepted

/-- Behind a save, an answer that keeps the record keeps the five minutes. -/
theorem restarts_of_treats {data' : Context} {save : Option Bool} {result : Outcome × Store}
    {refused failed : Bool} {response : Response}
    (h : Treats (store.save data) data' save result refused failed)
    (hresponse : result.1 = .response response) (haccepts : refuses response.reply = false)
    (hkept : result.2.context.isSome = true) : result.2.ttl = contextTtl :=
  ((@owed_of_treats (store.save data) data data' save result refused failed true rfl h).mpr
    rfl).2 response hresponse haccepts hkept

theorem undisturbed_of_reset {first : Step} {handler : Handler} (hctx : store.context = some data)
    (h : routeOf tenantId store data message = .reset first handler) :
    Undisturbed lib tenantId turn store data message := by
  refine ⟨fun handler' _ _ hroute => ?_, fun response hresponse haccepts hkept => ?_⟩
  · rw [h] at hroute
    cases hroute
  · unfold handleActiveClientContext at hresponse hkept ⊢
    rw [hctx] at hresponse hkept ⊢
    dsimp only at hresponse hkept ⊢
    rw [h] at hresponse hkept ⊢
    exact restarts_of_treats treats_handler hresponse haccepts hkept

theorem undisturbed_of_finished (hctx : store.context = some data)
    (h : routeOf tenantId store data message = .finished) :
    Undisturbed lib tenantId turn store data message := by
  refine ⟨fun handler' _ _ hroute => ?_, fun response hresponse haccepts hkept => ?_⟩
  · rw [h] at hroute
    cases hroute
  · unfold handleActiveClientContext at hresponse hkept ⊢
    rw [hctx] at hresponse hkept ⊢
    dsimp only at hresponse hkept ⊢
    rw [h] at hresponse hkept ⊢
    dsimp only at hresponse hkept ⊢
    cases hfound : (normalizePhone data.temp.targetPhone).elim (.ok none)
        ((store.save { data with step := .activeMenu }).db.activeClient tenantId) with
    | error e =>
      rw [hfound] at hresponse
      cases hresponse
    | ok found =>
      rw [hfound] at hresponse hkept
      cases found with
      | none => cases hresponse
      | some client => exact restarts_of_treats treats_activeClientMenu hresponse haccepts hkept

/-- The routes that no handler answers. -/
def Route.unanswered : Route → Bool
  | .console | .close | .clear | .raise => true
  | _ => false

theorem undisturbed_of_unanswered (hctx : store.context = some data)
    (h : Route.unanswered (routeOf tenantId store data message) = true) :
    Undisturbed lib tenantId turn store data message := by
  have hgone (response : Response)
      (hresponse : (handleActiveClientContext lib tenantId turn store message).1 =
        .response response) :
      (handleActiveClientContext lib tenantId turn store message).2.context = none := by
    unfold handleActiveClientContext at hresponse ⊢
    rw [hctx] at hresponse ⊢
    dsimp only at hresponse ⊢
    cases hroute : routeOf tenantId store data message with
    | handler | reset | finished =>
      rw [hroute] at h
      cases h
    | console | clear | raise =>
      rw [hroute] at hresponse
      cases hresponse
    | close => rfl
  refine ⟨fun handler _ _ hroute => ?_, fun response hresponse _ hkept => ?_⟩
  · rw [hroute] at h
    cases h
  · rw [hgone response hresponse] at hkept
    cases hkept

end LifetimesLemmas

open LifetimesLemmas

def exNaming : Context where
  step := .creatingName
  temp := { (opened (some "34600777666") none none "34600999888@s.whatsapp.net" none).temp with
    phone := some "34600777666" }

def exNamingStore : Store := ⟨exDatabase, some exNaming, none, 200⟩

def exNamed : List Action :=
  [.start (some "34600777666") none none "34600999888@s.whatsapp.net", .message exTurn "1"]

end Trackpal.Console.Shortcut
