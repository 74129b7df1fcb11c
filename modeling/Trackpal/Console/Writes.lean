import Trackpal.Console.Answers

/-!
# What the shortcut writes

A message in the shortcut calls at most one operation on the tables, and each handler has its own.

Results: `written_message`, the operations of a message.
-/

namespace Trackpal.Console.Shortcut

open Trackpal.Foundation

/-- What a handler of the shortcut does with the tables. -/
inductive Written (tenantId : Nat) (db : Database) : Handler → Database → Prop where
  | kept {handler : Handler} : Written tenantId db handler db
  | blocked {newId : Nat} {phone lid : Option String} {db' : Database}
      (h : db.createBlock tenantId newId phone lid = some db') :
      Written tenantId db .unblockedMenu db'
  | unblocked {id : Nat} : Written tenantId db .blockedMenu (db.unblock tenantId id)
  | created {refusal : Option Refusal} {tenantExists : Bool} {newId : Nat}
      {payload : Database.ClientCreate} {client : Client} {db' : Database}
      (h : db.createClient tenantId refusal tenantExists newId payload = .ok (some client, db')) :
      Written tenantId db .creatingConfirm db'
  | cleared {refusal : Option Refusal} {tenantExists : Bool} {newId : Nat}
      {payload : Database.ClientCreate} {client : Client} {db' : Database} {phone : Option String}
      (h : db.createClient tenantId refusal tenantExists newId payload = .ok (some client, db')) :
      Written tenantId db .creatingConfirm (db'.clearIdentity tenantId phone none)
  | changed {handler : Handler} {refusal : Option Refusal} {id : Nat} {f : Client → Client}
      {hf : ∀ c, (f c).id = c.id} {client : Client} {db' : Database}
      (hhandler : handler ∈ [.activeEditValue, .inactiveEditValue, .activeDeactivateConfirm,
        .inactiveClientMenu, .inactiveDetail])
      (htenant : ∀ c, (f c).tenantId = c.tenantId)
      (h : db.changeClient tenantId refusal id f hf = .ok (some client, db')) :
      Written tenantId db handler db'
  | deleted {refusal : Option Refusal} {id : Nat} {db' : Database}
      (h : db.deleteClient tenantId refusal id = .ok (true, db')) :
      Written tenantId db .inactiveDeleteConfirm db'
  | renewed {refusal : Option Refusal} {id : Nat} {next : Int → Int} {db' : Database}
      (h : db.renewSubscription tenantId refusal id next = some db') :
      Written tenantId db .activeExtendSubscription db'
  | cancelled {refusal : Option Refusal} {id : Nat} {db' : Database}
      (h : db.cancelSubscription tenantId refusal id = some db') :
      Written tenantId db .activeDeactivateSubscription db'

variable {lib : Library} {tenantId : Nat} {turn : Turn} {store : Store} {data : Context}
  {client : Client} {text message : String}

namespace WritesLemmas

open RowsLemmas AnswersLemmas

/-- A handler calls at most its own operations. -/
def Writes (tenantId : Nat) (store : Store) (handler : Handler) (result : Outcome × Store) : Prop :=
  Written tenantId store.db handler result.2.db

theorem written_forClient {handler : Handler} {found : Option Client}
    {handle : Client → Outcome × Store}
    (h : ∀ client, Writes tenantId store handler (handle client)) :
    Writes tenantId store handler (forClient store found handle) := by
  cases found with
  | none => exact .kept
  | some client => exact h client

theorem written_saved {handler : Handler} {result : Response × Context} :
    Writes tenantId store handler (saved store result) := .kept

theorem written_unblockedMenu : Writes tenantId store .unblockedMenu
    (handleCtxUnblockedMenu tenantId turn store data text) := by
  unfold handleCtxUnblockedMenu
  split
  · exact .kept
  split
  · split
    · exact .kept
    · next h => exact .blocked h
  split <;> exact .kept

theorem written_blockedMenu : Writes tenantId store .blockedMenu
    (handleCtxBlockedMenu tenantId store data text) := by
  unfold handleCtxBlockedMenu
  split
  · dsimp only [Store.clear]
    split
    · exact .unblocked
    · exact .kept
  split <;> exact .kept

theorem written_creatingConfirm : Writes tenantId store .creatingConfirm
    (handleCtxCreatingConfirm lib tenantId turn store data text) := by
  unfold handleCtxCreatingConfirm
  dsimp only
  split
  · exact .kept
  split
  · exact .kept
  split
  · exact .kept
  · exact .kept
  · exact .kept
  · next h =>
    dsimp only [Store.save]
    split
    · exact .cleared h
    · exact .created h

theorem written_postCreateMenu : Writes tenantId store .postCreateMenu
    (handlePostCreateMenu tenantId store data text) := by
  unfold handlePostCreateMenu
  dsimp only
  repeat' split
  all_goals exact .kept

theorem written_viewSubscriptions {handler : Handler} : Writes tenantId store handler
    (handleCtxActiveViewSubscriptions tenantId store data client text) := by
  unfold handleCtxActiveViewSubscriptions startContextSubscription
  dsimp only
  repeat' split
  all_goals exact .kept

theorem written_viewSubscriptionDetail : Writes tenantId store .viewSubscriptionDetail
    (handleCtxViewSubscriptionDetail tenantId store data client text) := by
  unfold handleCtxViewSubscriptionDetail
  dsimp only
  repeat' split
  all_goals exact .kept

theorem written_extendSubscription : Writes tenantId store .activeExtendSubscription
    (handleCtxActiveExtendSubscription lib tenantId turn store data client text) := by
  unfold handleCtxActiveExtendSubscription
  dsimp only
  repeat' split
  all_goals first | exact .kept | exact .renewed ‹_›

theorem written_deactivateSubscription : Writes tenantId store .activeDeactivateSubscription
    (handleCtxActiveDeactivateSubscription tenantId turn store data client text) := by
  unfold handleCtxActiveDeactivateSubscription
  dsimp only
  repeat' split
  all_goals first | exact .kept | exact .cancelled ‹_›

theorem written_activeClientMenu : Writes tenantId store .activeClientMenu
    (handleCtxActiveClientMenu tenantId store data client text) := by
  unfold handleCtxActiveClientMenu
  dsimp only
  split
  · exact .kept
  split
  · exact .kept
  split
  · exact @written_viewSubscriptions _ (store.save _) _ _ _ _
  · repeat' split
    all_goals exact .kept

theorem written_activeDetail {handler : Handler} : Writes tenantId store handler
    (handleCtxActiveDetail store data text) := by
  unfold handleCtxActiveDetail
  dsimp only
  repeat' split
  all_goals exact .kept

theorem written_editField {handler : Handler} {steps : EditSteps} : Writes tenantId store handler
    (editField store data steps text) := by
  unfold editField
  dsimp only
  repeat' split
  all_goals exact .kept

theorem written_editValue {handler : Handler} {steps : EditSteps}
    (hhandler : handler ∈ [.activeEditValue, .inactiveEditValue, .activeDeactivateConfirm,
      .inactiveClientMenu, .inactiveDetail]) :
    Writes tenantId store handler
      (editValue lib tenantId turn store data steps text message) := by
  unfold editValue
  dsimp only
  repeat' split
  all_goals first | exact .kept | exact .changed hhandler (fun c => keep_setField.1) ‹_›

theorem written_backToMenu {handler : Handler} {first : Step} {menu : List Text} :
    Writes tenantId store handler (backToMenu tenantId turn store data first menu) := by
  unfold backToMenu
  dsimp only
  repeat' split
  all_goals exact .kept

theorem written_deactivateConfirm : Writes tenantId store .activeDeactivateConfirm
    (handleCtxActiveDeactivateConfirm tenantId turn store data text message) := by
  unfold handleCtxActiveDeactivateConfirm
  dsimp only
  split
  · exact written_backToMenu
  · repeat' split
    all_goals first
      | exact .kept
      | exact .changed (f := fun c => { c with isActive := false }) (by simp) (fun _ => rfl) ‹_›

theorem written_reactivate {handler : Handler}
    (hhandler : handler ∈ [.activeEditValue, .inactiveEditValue, .activeDeactivateConfirm,
      .inactiveClientMenu, .inactiveDetail]) :
    Writes tenantId store handler
      (reactivateContextClient tenantId turn store data client) := by
  unfold reactivateContextClient
  dsimp only
  repeat' split
  all_goals first
    | exact .kept
    | exact .changed (f := fun c => { c with isActive := true }) hhandler (fun _ => rfl) ‹_›

theorem written_inactiveClientMenu : Writes tenantId store .inactiveClientMenu
    (handleCtxInactiveClientMenu tenantId turn store data client text) := by
  unfold handleCtxInactiveClientMenu
  dsimp only
  repeat' split
  all_goals first | exact .kept | exact written_reactivate (by simp)

theorem written_inactiveDetail : Writes tenantId store .inactiveDetail
    (handleCtxInactiveDetail tenantId turn store data client text) := by
  unfold handleCtxInactiveDetail
  dsimp only
  repeat' split
  all_goals first | exact .kept | exact written_reactivate (by simp)

theorem written_deleteConfirm : Writes tenantId store .inactiveDeleteConfirm
    (handleCtxInactiveDeleteConfirm tenantId turn store data text message) := by
  unfold handleCtxInactiveDeleteConfirm
  dsimp only
  split
  · exact written_backToMenu
  · repeat' split
    all_goals first | exact .kept | exact .deleted ‹_›

end WritesLemmas

open RowsLemmas AnswersLemmas WritesLemmas

/-- A handler calls at most its own operations. -/
theorem written_runHandler {found : Option Client} {handler : Handler} :
    Writes tenantId store handler
      (runHandler lib tenantId turn store data found text handler) := by
  unfold runHandler
  cases handler with
  | unblockedMenu => exact written_unblockedMenu
  | blockedMenu => exact written_blockedMenu
  | creatingConfirm => exact written_creatingConfirm
  | creatingFirst | creatingPhone | creatingName | creatingUsername | creatingPasswordChoice
  | creatingPasswordManual => exact written_saved
  | postCreateMenu => exact written_postCreateMenu
  | activeDetail => exact written_activeDetail
  | activeEditField => exact written_editField
  | activeEditValue => exact written_editValue (by simp)
  | activeDeactivateConfirm => exact written_deactivateConfirm
  | inactiveEditField => exact written_editField
  | inactiveEditValue => exact written_editValue (by simp)
  | inactiveDeleteConfirm => exact written_deleteConfirm
  | activeClientMenu => exact written_forClient fun client => written_activeClientMenu
  | activeViewSubscriptions => exact written_forClient fun client => written_viewSubscriptions
  | viewSubscriptionDetail => exact written_forClient fun client => written_viewSubscriptionDetail
  | activeExtendSubscription => exact written_forClient fun client => written_extendSubscription
  | activeDeactivateSubscription =>
    exact written_forClient fun client => written_deactivateSubscription
  | inactiveClientMenu => exact written_forClient fun client => written_inactiveClientMenu
  | inactiveDetail => exact written_forClient fun client => written_inactiveDetail

theorem written_message (hctx : store.context = some data) : ∃ handler,
    (routeOf tenantId store data text = .handler handler ∨ handler = .activeClientMenu ∨
      routeOf tenantId store data text = .reset .inactiveMenu handler) ∧
    Writes tenantId store handler
      (handleActiveClientContext lib tenantId turn store text) := by
  unfold handleActiveClientContext
  rw [hctx]
  dsimp only
  cases hroute : routeOf tenantId store data text with
  | handler handler => exact ⟨handler, Or.inl rfl, written_runHandler⟩
  | reset first handler =>
    obtain ⟨-, rfl, rfl⟩ | ⟨-, rfl, rfl⟩ := of_route_reset hroute
    · exact ⟨_, Or.inr (Or.inl rfl), @written_runHandler _ _ _ (store.save _) _ _ _ _⟩
    · exact ⟨_, Or.inr (Or.inr rfl), @written_runHandler _ _ _ (store.save _) _ _ _ _⟩
  | finished =>
    refine ⟨.activeClientMenu, Or.inr (Or.inl rfl), ?_⟩
    dsimp only
    split
    · exact .kept
    · exact .kept
    · exact @written_activeClientMenu _ (store.save _) _ _ _
  | console | close | clear | raise => exact ⟨.activeClientMenu, Or.inr (Or.inl rfl), .kept⟩

end Trackpal.Console.Shortcut
